import DesignToCode.Proofs.Output.MarkupReading
import Mathlib.Data.List.Basic

/-!
Texts between tags, with an entity for each character that markup takes for something else.
-/

namespace DesignToCode

namespace Text

def replaceInTurn (passes : List (Char × List Char)) (cs : List Char) : List Char :=
  passes.foldl (fun cs pass => replaceChar pass.1 pass.2 cs) cs

def substitute (passes : List (Char × List Char)) (c : Char) : List Char :=
  match passes.find? fun pass => pass.1 == c with
  | some pass => pass.2
  | none => [c]

/-- No replacement writes or repeats the character of a later one. -/
def Settled (passes : List (Char × List Char)) : Prop :=
  passes.Pairwise fun earlier later => later.1 ≠ earlier.1 ∧ later.1 ∉ earlier.2

theorem substitute_of_forall_ne {passes : List (Char × List Char)} {c : Char}
    (kept : ∀ pass ∈ passes, pass.1 ≠ c) : substitute passes c = [c] := by
  have notFound : (passes.find? fun pass => pass.1 == c) = none := by
    rw [List.find?_eq_none]
    intro pass isPass same
    exact kept pass isPass (beq_iff_eq.mp same)
  rw [substitute, notFound]

theorem replaceInTurn_eq_flatMap {passes : List (Char × List Char)} (settled : Settled passes)
    (cs : List Char) : replaceInTurn passes cs = cs.flatMap (substitute passes) := by
  induction passes generalizing cs with
  | nil => exact (List.flatMap_singleton' cs).symm
  | cons pass rest ih =>
      obtain ⟨first, later⟩ := List.pairwise_cons.mp settled
      rw [replaceInTurn, List.foldl_cons, ← replaceInTurn, ih later, replaceChar,
        List.flatMap_assoc]
      refine congrArg cs.flatMap (funext fun c => ?_)
      by_cases replaced : c = pass.1
      · -- What the first replacement has written is left alone by the later ones.
        have untouched : pass.2.flatMap (substitute rest) = pass.2 := by
          have each : ∀ written ∈ pass.2, substitute rest written = [written] := by
            intro written found
            refine substitute_of_forall_ne fun other isOther same => ?_
            exact (first other isOther).2 (same ▸ found)
          rw [List.flatMap_congr each, List.flatMap_singleton']
        simp [replaced, substitute, untouched]
      · simp [replaced, substitute, Ne.symm replaced]

end Text

open DesignToCode.Text

namespace Markup

def passes : List (Char × List Char) := [
  ('&', "&amp;".toList), ('<', "&lt;".toList), ('>', "&gt;".toList),
  ('\x7b', "&#123;".toList), ('\x7d', "&#125;".toList)]

def entities : List (List Char) :=
  passes.map Prod.snd

theorem settled_passes : Settled passes := by
  unfold Settled passes
  decide

theorem escapedChar_eq_substitute (c : Char) : escapedChar c = substitute passes c := by
  by_cases special : c ∈ escapedChars
  · simp only [escapedChars, List.mem_cons, List.not_mem_nil, or_false] at special
    rcases special with same | same | same | same | same <;> subst c <;> rfl
  · rw [escapedChar_of_not_mem special, substitute_of_forall_ne]
    have all : ∀ pass ∈ passes, pass.1 ∈ escapedChars := by decide
    intro pass isPass same
    exact special (same ▸ all pass isPass)

theorem escape_eq_replaceInTurn (text : String) :
    escape text = String.ofList (replaceInTurn passes text.toList) := by
  rw [escape, replaceInTurn_eq_flatMap settled_passes, funext escapedChar_eq_substitute]

theorem escapedChar_eq_append {c : Char} {before after : List Char}
    (split : escapedChar c = before ++ '&' :: after) :
    before = [] ∧ escapedChar c ∈ entities := by
  by_cases special : c ∈ escapedChars
  · have all : (escapedChars.all fun c => entities.contains (escapedChar c)) = true := by decide
    have isEntity : escapedChar c ∈ entities :=
      List.contains_iff_mem.mp (List.all_eq_true.mp all c special)
    have single : ∀ entity ∈ entities, '&' ∉ entity.tail := by decide
    refine ⟨?_, isEntity⟩
    cases before with
    | nil => rfl
    | cons first rest =>
        have inTail : '&' ∈ (escapedChar c).tail := by
          rw [split, List.cons_append, List.tail_cons]
          exact List.mem_append_right _ List.mem_cons_self
        exact absurd inTail (single _ isEntity)
  · rw [escapedChar_of_not_mem special, List.singleton_eq_append_iff] at split
    rcases split with ⟨_, same⟩ | ⟨_, same⟩
    · rw [List.cons.injEq] at same
      exact absurd (same.1 ▸ List.mem_cons_self) special
    · cases same

theorem entity_of_split {cs before after : List Char}
    (split : cs.flatMap escapedChar = before ++ '&' :: after) :
    ∃ entity ∈ entities, entity <+: '&' :: after := by
  induction cs generalizing before with
  | nil => simp at split
  | cons c rest ih =>
      rw [List.flatMap_cons, List.append_eq_append_iff] at split
      rcases split with ⟨later, _, inRest⟩ | ⟨inside, written, inside'⟩
      · exact ih inRest
      · cases inside with
        | nil =>
            rw [List.nil_append, eq_comm, ← List.nil_append ('&' :: after)] at inside'
            exact ih inside'
        | cons first others =>
            rw [List.cons_append, List.cons.injEq] at inside'
            obtain ⟨rfl, same⟩ := inside'
            obtain ⟨rfl, isEntity⟩ := escapedChar_eq_append written
            refine ⟨_, isEntity, ?_⟩
            rw [written, List.nil_append, same, ← List.cons_append]
            exact List.prefix_append _ _

/-- No bracket and no brace is left, every ampersand starts one of the five entities, and reading
the entities gives the text back. -/
theorem escape_lossless (text : String) :
    (∀ c ∈ (escape text).toList, c ≠ '<' ∧ c ≠ '>' ∧ c ≠ '\x7b' ∧ c ≠ '\x7d') ∧
    (∀ before after, (escape text).toList = before ++ '&' :: after →
      ∃ entity ∈ ["&amp;", "&lt;", "&gt;", "&#123;", "&#125;"],
        entity.toList <+: '&' :: after) ∧
    MarkupReader.unescape? (escape text).toList = some text.toList ∧
    escape text = String.ofList (replaceInTurn [('&', "&amp;".toList), ('<', "&lt;".toList),
      ('>', "&gt;".toList), ('\x7b', "&#123;".toList), ('\x7d', "&#125;".toList)]
      text.toList) := by
  refine ⟨?_, ?_, MarkupReader.unescape?_escape text, escape_eq_replaceInTurn text⟩
  · intro c found
    have ordinary := MarkupReader.isOrdinary_of_mem_escape found
    simp only [MarkupReader.isOrdinary, Bool.and_eq_true, bne_iff_ne] at ordinary
    exact ⟨ordinary.1.1.1, ordinary.1.1.2, ordinary.1.2, ordinary.2⟩
  · intro before after split
    rw [escape, String.toList_ofList] at split
    obtain ⟨entity, isEntity, starts⟩ := entity_of_split split
    have listed : ∀ entity ∈ entities,
        String.ofList entity ∈ ["&amp;", "&lt;", "&gt;", "&#123;", "&#125;"] := by
      decide
    exact ⟨_, listed entity isEntity, by rwa [String.toList_ofList]⟩

theorem escape_lossless_entity :
    escape "&lt;" = "&amp;lt;" ∧
    (∃ entity ∈ ["&amp;", "&lt;", "&gt;", "&#123;", "&#125;"],
      entity.toList <+: "&amp;lt;".toList) ∧
    MarkupReader.unescape? "&amp;lt;".toList = some "&lt;".toList := by
  have written : escape "&lt;" = "&amp;lt;" := by rfl
  obtain ⟨_, starts, read, _⟩ := escape_lossless "&lt;"
  rw [written] at starts read
  exact ⟨written, starts [] "amp;lt;".toList rfl, read⟩

end Markup

end DesignToCode
