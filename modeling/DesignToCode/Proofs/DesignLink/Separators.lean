import DesignToCode.Proofs.DesignLink

/-!
The separators of node ids, and the three passes that replace them.
-/

namespace DesignToCode.DesignLink

open DesignToCode.Text

/-- The second text is the first one after a pass from left to right that writes `new` for every
occurrence of one of the texts `olds` and leaves the other characters as they are. -/
inductive Replaced (olds : List (List Char)) (new : List Char) : List Char → List Char → Prop
  | done : Replaced olds new [] []
  | found {old rest out : List Char} : old ∈ olds → Replaced olds new rest out →
      Replaced olds new (old ++ rest) (new ++ out)
  | kept {c : Char} {rest out : List Char} : (∀ old ∈ olds, ¬old <+: c :: rest) →
      Replaced olds new rest out → Replaced olds new (c :: rest) (c :: out)

def colonCodes : List (List Char) :=
  [['3', 'A'], ['3', 'a']]

def separators : List (List Char) :=
  [[':'], ['%', '3', 'A'], ['%', '3', 'a']]

theorem mem_separators_iff {separator : List Char} :
    separator ∈ separators ↔ separator = [':'] ∨ ∃ code ∈ colonCodes, separator = '%' :: code := by
  simp [separators, colonCodes]

def Ordinary (c : Char) : Prop :=
  c ≠ ':' ∧ c ≠ '%' ∧ c ≠ '-'

theorem ordinary_of_mem_colonCodes {code : List Char} (isCode : code ∈ colonCodes) :
    ∀ c ∈ code, Ordinary c := by
  simp only [colonCodes, List.mem_cons, List.not_mem_nil, or_false] at isCode
  rcases isCode with rfl | rfl <;> simp [Ordinary]

def NoEscape (text : List Char) : Prop :=
  ∀ code ∈ colonCodes, ¬ '%' :: code <+: text

theorem noEscape_of_ne {c : Char} (different : c ≠ '%') (rest : List Char) :
    NoEscape (c :: rest) := by
  rintro code _ ⟨later, same⟩
  exact different (List.cons.inj same).1.symm

theorem dashed_cons {c : Char} {rest : List Char} (plain : NoEscape (c :: rest)) :
    dashed (c :: rest) = (if c == ':' then '-' else c) :: dashed rest := by
  rw [dashed]
  · rintro later rfl rfl
    exact plain ['3', 'A'] (by decide) ⟨later, rfl⟩
  · rintro later rfl rfl
    exact plain ['3', 'a'] (by decide) ⟨later, rfl⟩

theorem dashed_cons_of_ne {c : Char} (different : c ≠ '%') (rest : List Char) :
    dashed (c :: rest) = (if c == ':' then '-' else c) :: dashed rest :=
  dashed_cons (noEscape_of_ne different rest)

theorem dashed_escape {code : List Char} (isCode : code ∈ colonCodes) (rest : List Char) :
    dashed ('%' :: (code ++ rest)) = '-' :: dashed rest := by
  simp only [colonCodes, List.mem_cons, List.not_mem_nil, or_false] at isCode
  rcases isCode with rfl | rfl <;> rfl

theorem dashed_separator {separator : List Char} (known : separator ∈ ['-'] :: separators)
    (rest : List Char) : dashed (separator ++ rest) = '-' :: dashed rest := by
  rw [List.mem_cons, mem_separators_iff] at known
  rcases known with rfl | rfl | ⟨code, isCode, rfl⟩
  · exact dashed_cons_of_ne (by decide) rest
  · exact dashed_cons_of_ne (by decide) rest
  · exact dashed_escape isCode rest

theorem dashed_ordinary {word : List Char} (ordinary : ∀ c ∈ word, Ordinary c)
    (rest : List Char) : dashed (word ++ rest) = word ++ dashed rest := by
  induction word with
  | nil => rfl
  | cons c word ih =>
      obtain ⟨notColon, notPercent, _⟩ := ordinary c List.mem_cons_self
      rw [List.cons_append, dashed_cons_of_ne notPercent, if_neg (by simpa using notColon),
        ih fun c later => ordinary c (List.mem_cons_of_mem _ later), List.cons_append]

theorem replaced_dashed (text : List Char) : Replaced separators ['-'] text (dashed text) := by
  fun_induction dashed text with
  | case1 => exact .done
  | case2 rest ih => exact .found (show ['%', '3', 'A'] ∈ separators by decide) ih
  | case3 rest ih => exact .found (show ['%', '3', 'a'] ∈ separators by decide) ih
  | case4 c rest notCapital notSmall ih =>
      by_cases colon : c = ':'
      · subst c
        exact .found (show [':'] ∈ separators by decide) ih
      · rw [if_neg (by simpa using colon)]
        refine .kept ?_ ih
        rintro old isOld ⟨later, same⟩
        simp only [separators, List.mem_cons, List.not_mem_nil, or_false] at isOld
        rcases isOld with rfl | rfl | rfl
        · exact colon (List.cons.inj same).1.symm
        · exact notCapital later (List.cons.inj same).1.symm (List.cons.inj same).2.symm
        · exact notSmall later (List.cons.inj same).1.symm (List.cons.inj same).2.symm

theorem noEscape_of_no_separator {text : List Char}
    (absent : ∀ separator ∈ separators, ¬separator <+: text) : NoEscape text := by
  intro code isCode
  exact absent _ (mem_separators_iff.mpr (Or.inr ⟨code, isCode, rfl⟩))

theorem replaced_iff {text out : List Char} :
    Replaced separators ['-'] text out ↔ out = dashed text := by
  constructor
  · intro replaced
    induction replaced with
    | done => rfl
    | found isOld _ ih =>
        rw [dashed_separator (List.mem_cons_of_mem _ isOld), ih, List.singleton_append]
    | @kept c rest out absent _ ih =>
        have notColon : c ≠ ':' := by
          rintro rfl
          exact absent [':'] (by decide) ⟨rest, rfl⟩
        rw [dashed_cons (noEscape_of_no_separator absent), if_neg (by simpa using notColon), ih]
  · rintro rfl
    exact replaced_dashed text

namespace Replaced

variable {olds : List (List Char)} {new : List Char}

theorem cases_cons {c : Char} {rest out : List Char}
    (replaced : Replaced olds new (c :: rest) out) :
    (∃ old ∈ olds, ∃ later out', c :: rest = old ++ later ∧ out = new ++ out' ∧
      Replaced olds new later out') ∨
    ((∀ old ∈ olds, ¬old <+: c :: rest) ∧
      ∃ out', out = c :: out' ∧ Replaced olds new rest out') := by
  generalize split : c :: rest = text at replaced
  cases replaced with
  | done => cases split
  | found isOld later => exact Or.inl ⟨_, isOld, _, _, rfl, rfl, later⟩
  | kept absent later =>
      cases split
      exact Or.inr ⟨absent, _, rfl, later⟩

theorem eq_nil {out : List Char} (nonempty : [] ∉ olds) (replaced : Replaced olds new [] out) :
    out = [] := by
  generalize empty : [] = text at replaced
  cases replaced with
  | done => rfl
  | found isOld later =>
      obtain ⟨rfl, rfl⟩ := List.append_eq_nil_iff.mp empty.symm
      exact absurd isOld nonempty
  | kept => cases empty

theorem ne_nil {text out : List Char} (written : new ≠ []) (nonempty : text ≠ [])
    (replaced : Replaced olds new text out) : out ≠ [] := by
  cases replaced with
  | done => exact nonempty
  | found => exact List.append_ne_nil_of_left_ne_nil written _
  | kept => exact List.cons_ne_nil _ _

theorem mem_or_mem {c : Char} {text out : List Char} (replaced : Replaced olds new text out)
    (found : c ∈ out) : c ∈ new ∨ c ∈ text := by
  induction replaced with
  | done => exact Or.inr found
  | found _ _ ih =>
      rcases List.mem_append.mp found with inNew | later
      · exact Or.inl inNew
      · exact (ih later).imp_right (List.mem_append_right _)
  | kept _ _ ih =>
      rcases List.mem_cons.mp found with rfl | later
      · exact Or.inr List.mem_cons_self
      · exact (ih later).imp_right (List.mem_cons_of_mem _)

section

variable (known : olds ⊆ separators) (spelled : new ∈ ['-'] :: separators)

include known in
theorem ordinary_left {word rest out : List Char} (ordinary : ∀ c ∈ word, Ordinary c)
    (replaced : Replaced olds new (word ++ rest) out) :
    ∃ out', out = word ++ out' ∧ Replaced olds new rest out' := by
  induction word generalizing out with
  | nil => exact ⟨out, rfl, replaced⟩
  | cons c word ih =>
      obtain ⟨notColon, notPercent, _⟩ := ordinary c List.mem_cons_self
      rcases replaced.cases_cons with ⟨old, isOld, later, _, split, _⟩ | ⟨_, out', rfl, rest⟩
      · rcases mem_separators_iff.mp (known isOld) with rfl | ⟨code, _, rfl⟩
        · exact absurd (List.cons.inj split).1 notColon
        · exact absurd (List.cons.inj split).1 notPercent
      · obtain ⟨behind, rfl, later⟩ :=
          ih (fun c member => ordinary c (List.mem_cons_of_mem _ member)) rest
        exact ⟨behind, rfl, later⟩

include known in
theorem append_ordinary {word rest out : List Char} (ordinary : ∀ c ∈ word, Ordinary c)
    (replaced : Replaced olds new rest out) : Replaced olds new (word ++ rest) (word ++ out) := by
  induction word with
  | nil => exact replaced
  | cons c word ih =>
      obtain ⟨notColon, notPercent, _⟩ := ordinary c List.mem_cons_self
      refine .kept ?_ (ih fun c member => ordinary c (List.mem_cons_of_mem _ member))
      intro old isOld here
      rcases mem_separators_iff.mp (known isOld) with rfl | ⟨code, _, rfl⟩
      · exact notColon (List.cons_prefix_cons.mp here).1.symm
      · exact notPercent (List.cons_prefix_cons.mp here).1.symm

include spelled in
theorem ordinary_right {word text out : List Char} (ordinary : ∀ c ∈ word, Ordinary c)
    (replaced : Replaced olds new text (word ++ out)) :
    ∃ rest, text = word ++ rest ∧ Replaced olds new rest out := by
  induction word generalizing text with
  | nil => exact ⟨text, rfl, replaced⟩
  | cons c word ih =>
      obtain ⟨notColon, notPercent, notDash⟩ := ordinary c List.mem_cons_self
      generalize split : c :: word ++ out = written at replaced
      cases replaced with
      | done => cases split
      | found isOld later =>
          rw [List.mem_cons, mem_separators_iff] at spelled
          rcases spelled with rfl | rfl | ⟨code, _, rfl⟩
          · exact absurd (List.cons.inj split).1 notDash
          · exact absurd (List.cons.inj split).1 notColon
          · exact absurd (List.cons.inj split).1 notPercent
      | kept absent later =>
          obtain ⟨rfl, rfl⟩ := List.cons.inj split
          obtain ⟨rest, rfl, behind⟩ :=
            ih (fun c member => ordinary c (List.mem_cons_of_mem _ member)) later
          exact ⟨rest, rfl, behind⟩

include known spelled in
theorem dashed_eq {text out : List Char} (replaced : Replaced olds new text out) :
    dashed out = dashed text := by
  induction replaced with
  | done => rfl
  | found isOld _ ih =>
      rw [dashed_separator spelled, dashed_separator (List.mem_cons_of_mem _ (known isOld)), ih]
  | @kept c rest out absent later ih =>
      by_cases escape : ∃ code ∈ colonCodes, '%' :: code <+: c :: rest
      · obtain ⟨code, isCode, here⟩ := escape
        obtain ⟨rfl, rest', rfl⟩ := List.cons_prefix_cons.mp here
        have ordinary := ordinary_of_mem_colonCodes isCode
        obtain ⟨out', rfl, _⟩ := ordinary_left known ordinary later
        rw [dashed_ordinary ordinary, dashed_ordinary ordinary] at ih
        rw [dashed_escape isCode, dashed_escape isCode, List.append_cancel_left ih]
      · have plain : NoEscape (c :: rest) := fun code isCode here => escape ⟨code, isCode, here⟩
        have stillPlain : NoEscape (c :: out) := by
          intro code isCode here
          obtain ⟨rfl, out', rfl⟩ := List.cons_prefix_cons.mp here
          obtain ⟨rest', rfl, _⟩ := ordinary_right spelled (ordinary_of_mem_colonCodes isCode) later
          exact plain code isCode ⟨rest', rfl⟩
        rw [dashed_cons stillPlain, dashed_cons plain, ih]

end

end Replaced

theorem replaceChar_cons (old : Char) (new : List Char) (c : Char) (rest : List Char) :
    replaceChar old new (c :: rest) =
      (if c == old then new else [c]) ++ replaceChar old new rest := by
  rw [replaceChar, List.flatMap_cons, ← replaceChar]

theorem replaced_colons_iff {text out : List Char} :
    Replaced [[':']] ['-'] text out ↔ out = replaceChar ':' ['-'] text := by
  constructor
  · intro replaced
    induction replaced with
    | done => rfl
    | found isOld _ ih =>
        rw [List.mem_singleton.mp isOld, ih]
        rfl
    | @kept c rest out absent _ ih =>
        have notColon : c ≠ ':' := by
          rintro rfl
          exact absent [':'] List.mem_cons_self ⟨rest, rfl⟩
        rw [replaceChar_cons, if_neg (by simpa using notColon), ih, List.singleton_append]
  · rintro rfl
    induction text with
    | nil => exact .done
    | cons c rest ih =>
        rw [replaceChar_cons]
        by_cases colon : c = ':'
        · rw [colon]
          exact .found (show [':'] ∈ [[':']] from List.mem_cons_self) ih
        · rw [if_neg (by simpa using colon)]
          refine .kept ?_ ih
          intro old isOld here
          rw [List.mem_singleton.mp isOld] at here
          exact colon (List.cons_prefix_cons.mp here).1.symm

theorem replaceChar_eq_dashed_of_passes {text first second : List Char}
    (capitals : Replaced [['%', '3', 'A']] [':'] text first)
    (smalls : Replaced [['%', '3', 'a']] [':'] first second) :
    replaceChar ':' ['-'] second = dashed text := by
  induction capitals generalizing second with
  | done =>
      obtain rfl := smalls.eq_nil (by decide)
      rfl
  | @found old rest out isOld later ih =>
      obtain rfl := List.mem_singleton.mp isOld
      -- The second pass meets the colon that the first one wrote, and keeps it.
      rcases smalls.cases_cons with ⟨small, isSmall, _, _, split, _⟩ | ⟨_, second', rfl, smalls'⟩
      · rw [List.mem_singleton.mp isSmall] at split
        cases split
      · rw [dashed_separator (by decide), ← ih smalls', replaceChar_cons]
        rfl
  | @kept c rest out absent later ih =>
      have ordinary : ∀ d ∈ ['3', 'a'], Ordinary d := ordinary_of_mem_colonCodes (by decide)
      rcases smalls.cases_cons with ⟨small, isSmall, out', second', split, rfl, smalls'⟩ |
        ⟨absent', second', rfl, smalls'⟩
      · rw [List.mem_singleton.mp isSmall] at split
        obtain ⟨rfl, rfl⟩ := List.cons.inj split
        -- What the first pass left as an escape was one before it, as it writes no digits.
        obtain ⟨rest', rfl, _⟩ := Replaced.ordinary_right (by decide) ordinary later
        have same := ih (smalls'.append_ordinary (by decide) ordinary)
        rw [dashed_ordinary ordinary] at same
        have behind : ['3', 'a'] ++ replaceChar ':' ['-'] second' = ['3', 'a'] ++ dashed rest' :=
          same
        have isCode : ['3', 'a'] ∈ colonCodes := by decide
        rw [dashed_escape isCode, ← List.append_cancel_left behind]
        rfl
      · have plain : NoEscape (c :: rest) := by
          intro code isCode here
          simp only [colonCodes, List.mem_cons, List.not_mem_nil, or_false] at isCode
          rcases isCode with rfl | rfl
          · exact absent _ List.mem_cons_self here
          · obtain ⟨rfl, rest', rfl⟩ := List.cons_prefix_cons.mp here
            obtain ⟨out', rfl, _⟩ := Replaced.ordinary_left (by decide) ordinary later
            exact absent' _ List.mem_cons_self ⟨out', rfl⟩
        rw [dashed_cons plain, replaceChar_cons, ih smalls']
        split <;> rfl

theorem exists_replaced {olds : List (List Char)} (nonempty : [] ∉ olds) (new text : List Char) :
    ∃ out, Replaced olds new text out := by
  generalize size : text.length = length
  induction length using Nat.strongRecOn generalizing text with
  | ind length ih =>
      cases text with
      | nil => exact ⟨[], .done⟩
      | cons c rest =>
          by_cases here : ∃ old ∈ olds, old <+: c :: rest
          · obtain ⟨old, isOld, later, split⟩ := here
            have filled : 0 < old.length :=
              List.length_pos_iff.mpr fun empty => nonempty (empty ▸ isOld)
            have shorter : later.length < length := by
              rw [← size, ← split, List.length_append]
              omega
            obtain ⟨out, replaced⟩ := ih later.length shorter later rfl
            exact ⟨new ++ out, split ▸ .found isOld replaced⟩
          · have shorter : rest.length < length := by
              rw [← size]
              exact Nat.lt_succ_self _
            obtain ⟨out, replaced⟩ := ih rest.length shorter rest rfl
            exact ⟨c :: out, .kept (fun old isOld found => here ⟨old, isOld, found⟩) replaced⟩

theorem replaced_passes_iff {text out : List Char} :
    (∃ first second, Replaced [['%', '3', 'A']] [':'] text first ∧
      Replaced [['%', '3', 'a']] [':'] first second ∧ Replaced [[':']] ['-'] second out) ↔
    Replaced separators ['-'] text out := by
  simp only [replaced_iff, replaced_colons_iff]
  constructor
  · rintro ⟨first, second, capitals, smalls, rfl⟩
    exact replaceChar_eq_dashed_of_passes capitals smalls
  · rintro rfl
    obtain ⟨first, capitals⟩ := exists_replaced (show [] ∉ [['%', '3', 'A']] by decide) [':'] text
    obtain ⟨second, smalls⟩ := exists_replaced (show [] ∉ [['%', '3', 'a']] by decide) [':'] first
    exact ⟨first, second, capitals, smalls,
      (replaceChar_eq_dashed_of_passes capitals smalls).symm⟩

end DesignToCode.DesignLink
