import DesignToCode.Proofs.Decimal.Characters
import DesignToCode.Proofs.Output.SheetReader
import DesignToCode.Proofs.Style.Aspects

/-!
Values that a reader of style sheets reads to their end.
-/

namespace DesignToCode

open DesignToCode.Text

namespace SheetReader

open CssReader

def Keeps (nesting : Nesting) (text : String) : Prop :=
  text.toList.foldlM moveValue nesting = some nesting

def IsValue (text : String) : Prop :=
  isValue text.toList = true

theorem moveValue_of_isPlain {nesting : Nesting}
    (unquoted : nesting = .none ∨ nesting = .arguments) {c : Char} (plain : isPlain c = true) :
    moveValue nesting c = some nesting := by
  have apart (other : Char) (notPlain : isPlain other = false) : c ≠ other := by
    rintro rfl
    rw [plain] at notPlain
    cases notPlain
  rcases unquoted with rfl | rfl
  · simp [moveValue, plain, apart '\'' rfl, apart '"' rfl, apart '(' rfl]
  · simp [moveValue, plain, apart ')' rfl]

theorem keeps_of_isPlain {nesting : Nesting} (unquoted : nesting = .none ∨ nesting = .arguments)
    {text : String} (plain : ∀ c ∈ text.toList, isPlain c = true) : Keeps nesting text := by
  have letters (cs : List Char) (plain : ∀ c ∈ cs, isPlain c = true) :
      cs.foldlM moveValue nesting = some nesting := by
    induction cs with
    | nil => rfl
    | cons c rest ih =>
        rw [List.foldlM_cons, moveValue_of_isPlain unquoted (plain c List.mem_cons_self)]
        exact ih fun other found => plain other (List.mem_cons_of_mem _ found)
  exact letters text.toList plain

theorem Keeps.append {nesting : Nesting} {first second : String} (left : Keeps nesting first)
    (right : Keeps nesting second) : Keeps nesting (first ++ second) := by
  rw [Keeps] at left right ⊢
  rw [String.toList_append, List.foldlM_append, left]
  exact right

theorem keeps_join {nesting : Nesting} {separator : String} (separated : Keeps nesting separator)
    {texts : List String} (each : ∀ text ∈ texts, Keeps nesting text) :
    Keeps nesting (join separator texts) := by
  induction texts with
  | nil => rfl
  | cons text rest ih =>
      have first := each text List.mem_cons_self
      have others := ih fun other found => each other (List.mem_cons_of_mem _ found)
      cases rest with
      | nil => exact first
      | cons next later => exact (first.append separated).append others

theorem isValue_of_keeps {text : String} {c : Char} {rest : List Char}
    (begins : text.toList = c :: rest) (noBlank : isCssBlank c = false)
    (keeps : Keeps .none text) : IsValue text := by
  rw [IsValue, isValue_iff, begins]
  exact ⟨List.cons_ne_nil _ _, by simpa using noBlank, begins ▸ keeps⟩

theorem IsValue.keeps {text : String} (valued : IsValue text) : Keeps .none text :=
  (isValue_iff.mp valued).2.2

theorem IsValue.append {first second : String} (valued : IsValue first)
    (keeps : Keeps .none second) : IsValue (first ++ second) := by
  obtain ⟨nonempty, noBlank, _⟩ := isValue_iff.mp valued
  obtain ⟨c, rest, begins⟩ := List.exists_cons_of_ne_nil nonempty
  rw [begins] at noBlank
  have extended : (first ++ second).toList = c :: (rest ++ second.toList) := by
    rw [String.toList_append, begins, List.cons_append]
  exact isValue_of_keeps extended (noBlank c rfl) (valued.keeps.append keeps)

theorem IsValue.spaced {first second : String} (valued : IsValue first) (other : IsValue second) :
    IsValue (first ++ " " ++ second) := by
  have blank : Keeps .none " " := rfl
  exact (valued.append blank).append other.keeps

theorem IsValue.join {texts : List String} (nonempty : texts ≠ [])
    (each : ∀ text ∈ texts, IsValue text) : IsValue (join ", " texts) := by
  have comma : Keeps .none ", " := rfl
  obtain ⟨first, rest, rfl⟩ := List.exists_cons_of_ne_nil nonempty
  have others := keeps_join comma fun text found => (each text (List.mem_cons_of_mem _ found)).keeps
  have valued := each first List.mem_cons_self
  cases rest with
  | nil => exact valued
  | cons next later => exact (valued.append comma).append others

end SheetReader

namespace Style

open CssReader SheetReader

theorem isPlain_of_isAlphanum {c : Char} (letter : c.isAlphanum = true) :
    isPlain c = true ∧ isCssBlank c = false := by
  have checked := Naming.of_ascii
    (fun c => !c.isAlphanum || (isPlain c && !isCssBlank c)) (by decide)
    (Naming.ascii_of_isAlphanum letter)
  simpa [letter] using checked

theorem isPlain_of_mem_plain {x : Float} {c : Char} (found : c ∈ (Decimal.plain x).toList) :
    isPlain c = true ∧ isCssBlank c = false := by
  rcases Decimal.mem_plain found with letter | rfl | rfl
  · exact isPlain_of_isAlphanum letter
  · exact ⟨rfl, rfl⟩
  · exact ⟨rfl, rfl⟩

theorem keeps_plain {nesting : Nesting} (unquoted : nesting = .none ∨ nesting = .arguments)
    (x : Float) : Keeps nesting (Decimal.plain x) :=
  keeps_of_isPlain unquoted fun _ found => (isPlain_of_mem_plain found).1

theorem isValue_plain (x : Float) : IsValue (Decimal.plain x) := by
  obtain ⟨c, rest, begins⟩ := List.exists_cons_of_ne_nil (Decimal.plain_ne_nil x)
  have first := isPlain_of_mem_plain (begins ▸ List.mem_cons_self)
  exact isValue_of_keeps begins first.2 (keeps_plain (Or.inl rfl) x)

theorem isValue_px (x : Float) : IsValue (px x) := by
  have unit : Keeps .none "px" := rfl
  exact (isValue_plain x).append unit

theorem isValue_shorthand (sides : Sides) : IsValue sides.shorthand := by
  unfold Sides.shorthand
  split
  · exact isValue_px _
  · split
    · exact (isValue_px _).spaced (isValue_px _)
    · exact (((isValue_px _).spaced (isValue_px _)).spaced (isValue_px _)).spaced (isValue_px _)

theorem channel_lt (x : Float) : channel x < 256 := by
  unfold channel
  simp only
  split
  · decide
  · split
    · decide
    · exact UInt8.toNat_lt _

theorem keeps_hexByte (x : Float) : Keeps .none (hexByte (channel x)) := by
  have digits : ∀ digit < 16, isPlain (Nat.digitChar digit) = true := by decide
  refine keeps_of_isPlain (Or.inl rfl) fun c found => ?_
  simp only [hexByte, String.toList_ofList, List.mem_cons, List.not_mem_nil, or_false] at found
  rcases found with rfl | rfl
  · exact digits _ (Nat.div_lt_of_lt_mul (channel_lt x))
  · exact digits _ (Nat.mod_lt _ (by decide))

theorem keeps_natText (n : Nat) : Keeps .arguments (Decimal.natText n) := by
  refine keeps_of_isPlain (Or.inr rfl) fun c found => ?_
  rw [Decimal.natText, String.toList_ofList] at found
  exact (isPlain_of_isAlphanum (Decimal.isAlphanum_of_mem_digitText found)).1

theorem isValue_rgba {arguments : String} (keeps : Keeps .arguments arguments) :
    IsValue ("rgba(" ++ arguments ++ ")") := by
  have opened : "rgba(".toList.foldlM moveValue .none = some .arguments := rfl
  have begins : ("rgba(" ++ arguments ++ ")").toList =
      'r' :: ("gba(".toList ++ arguments.toList ++ [')']) := by simp
  refine isValue_of_keeps begins rfl ?_
  rw [Keeps] at keeps
  rw [Keeps, String.toList_append, String.toList_append, List.foldlM_append,
    List.foldlM_append, opened, Option.bind_eq_bind, Option.bind_some, keeps]
  rfl

theorem isValue_cssColor (color : Color) (alpha : Float) : IsValue (cssColor color alpha) := by
  unfold cssColor
  simp only
  split
  · have sharp : IsValue "#" := rfl
    exact ((sharp.append (keeps_hexByte _)).append (keeps_hexByte _)).append (keeps_hexByte _)
  · have comma : Keeps .arguments ", " := rfl
    refine isValue_rgba (keeps_join comma ?_)
    simp only [List.forall_mem_cons, List.not_mem_nil, false_implies, implies_true, and_true]
    exact ⟨keeps_natText _, keeps_natText _, keeps_natText _, keeps_plain (Or.inr rfl) _⟩

end Style

namespace StyleMap

open SheetReader

/-- All declarations but that of a font family are read to their end. -/
def Readable (map : StyleMap) : Prop :=
  ∀ entry ∈ map.entries, entry.1 ≠ "font-family" → IsValue entry.2.display

variable {map other : StyleMap}

theorem readable_empty : Readable .empty := by
  intro entry found
  cases found

theorem Readable.insert (readable : map.Readable) (property : String) {value : StyleValue}
    (valued : property ≠ "font-family" → IsValue value.display) :
    Readable (map.insert property value) := by
  intro entry found named
  rcases OrderedMap.mem_put found with rfl | old
  · exact valued named
  · exact readable entry old named

theorem Readable.merge (first : map.Readable) (second : other.Readable) :
    Readable (map.merge other) := by
  intro entry found
  exact (OrderedMap.mem_merge found).elim (first entry) (second entry)

theorem readable_one (property : String) {value : StyleValue} (valued : IsValue value.display) :
    (one property value).Readable :=
  readable_empty.insert property fun _ => valued

theorem readable_text (property : String) {value : String} (valued : IsValue value) :
    (text property value).Readable :=
  readable_one property valued

theorem readable_textWhen (property : String) {value : Option String}
    (valued : ∀ text ∈ value, property ≠ "font-family" → IsValue text) :
    (textWhen property value).Readable := by
  cases value with
  | none => exact readable_empty
  | some text => exact readable_empty.insert property (valued text rfl)

end StyleMap

namespace Style

open SheetReader StyleMap

theorem readable_lookUp (property : String) {table : List (String × String)}
    (words : (table.all fun entry => isValue entry.2.toList) = true) (key : Option String) :
    (textWhen property (lookUp table key)).Readable := by
  refine readable_textWhen property fun text found _ => ?_
  obtain ⟨word, _, isEntry⟩ := Option.bind_eq_some_iff.mp found
  obtain ⟨before, after, split, _⟩ := List.lookup_eq_some_iff.mp isEntry
  have inTable : (word, text) ∈ table := split ▸ List.mem_append_right _ List.mem_cons_self
  exact List.all_eq_true.mp words _ inTable

theorem readable_map_px (property : String) (x : Option Float) :
    (textWhen property (x.map px)).Readable := by
  refine readable_textWhen property fun text found _ => ?_
  obtain ⟨number, _, rfl⟩ := Option.map_eq_some_iff.mp found
  exact isValue_px number

theorem readable_layout (node : Node) : (layout node).Readable := by
  unfold layout
  split
  · exact readable_empty
  · split
    · exact readable_empty
    · rename_i mode _ _
      have directed : IsValue (if mode == "VERTICAL" then "column" else "row") := by
        split <;> rfl
      have displayed : (text "display" "flex").Readable := readable_text "display" rfl
      have flex : StyleMap.Readable ((text "display" "flex").insert "flex-direction"
          (.text (if mode == "VERTICAL" then "column" else "row"))) :=
        displayed.insert "flex-direction" fun _ => directed
      simp only
      split
      · exact flex.insert "flex-wrap" fun _ => rfl
      · exact flex

theorem readable_alignment (node : Node) : (alignment node).Readable :=
  (readable_lookUp _ rfl _).merge (readable_lookUp _ rfl _)

theorem readable_spacing (node : Node) : (spacing node).Readable := by
  refine (readable_map_px _ _).merge ?_
  unfold padding
  split
  · exact readable_text _ (isValue_shorthand _)
  · exact readable_empty

theorem readable_extent (property : String) (mode : Option String) (size : Option Float) :
    (textWhen property (extent mode size)).Readable := by
  refine readable_textWhen property fun text found _ => ?_
  cases mode with
  | none => cases found
  | some mode =>
      simp only [extent] at found
      split at found
      · obtain ⟨number, _, rfl⟩ := Option.map_eq_some_iff.mp found
        exact isValue_px number
      · split at found
        · cases found
          rfl
        · cases found

theorem readable_fill (node : Node) (isText : Bool) : (fill node isText).Readable := by
  unfold fill
  split
  · exact readable_empty
  · exact readable_text _ (isValue_cssColor _ _)

theorem readable_border (node : Node) : (border node).Readable := by
  unfold border
  split
  · have solid : Keeps .none " solid " := rfl
    exact readable_text _ (((isValue_px _).append solid).append (isValue_cssColor _ _).keeps)
  · exact readable_empty

theorem readable_cornerRadius (node : Node) : (cornerRadius node).Readable := by
  unfold cornerRadius
  split
  · split
    · split
      · exact readable_text _ (isValue_px _)
      · exact readable_empty
    · exact readable_text _ ((((isValue_px _).spaced (isValue_px _)).spaced (isValue_px _)).spaced
        (isValue_px _))
  · exact readable_map_px _ _

theorem readable_textStyle (node : Node) : (textStyle node).Readable := by
  unfold textStyle
  split
  · exact readable_empty
  · rename_i style _
    have family : (fontFamily style).Readable :=
      readable_textWhen "font-family" fun _ _ other => absurd rfl other
    have weight : (fontWeight style).Readable := by
      unfold fontWeight
      split
      · exact readable_one _ (isValue_plain _)
      · exact readable_empty
    have height : (lineHeight style).Readable := by
      unfold lineHeight
      split
      · exact readable_text _ (isValue_plain _)
      · exact readable_empty
    have spacing : (textWhen "letter-spacing"
        ((nonZero style.letterSpacing).map fun spacing => px (round2 spacing))).Readable := by
      refine readable_textWhen _ fun text found _ => ?_
      obtain ⟨number, _, rfl⟩ := Option.map_eq_some_iff.mp found
      exact isValue_px _
    have aligned : (textWhen "text-align" (lookUp textAlignments style.align)).Readable :=
      readable_lookUp _ rfl _
    exact ((((family.merge (readable_map_px _ _)).merge weight).merge height).merge spacing).merge
      aligned

theorem isValue_of_mem_dropShadow {effect : Effect} {text : String}
    (found : text ∈ dropShadow effect) : IsValue text := by
  unfold dropShadow at found
  split at found
  · obtain ⟨color, _, rfl⟩ := Option.map_eq_some_iff.mp found
    exact ((((isValue_px _).spaced (isValue_px _)).spaced (isValue_px _)).spaced
      (isValue_px _)).spaced (isValue_cssColor _ _)
  · cases found

theorem readable_effects (node : Node) : (effects node).Readable := by
  unfold effects
  simp only
  split
  · exact readable_empty
  · rename_i some
    refine readable_text _ (IsValue.join (by simpa using some) fun text found => ?_)
    obtain ⟨effect, _, isShadow⟩ := List.mem_filterMap.mp found
    exact isValue_of_mem_dropShadow isShadow

theorem readable_opacity (node : Node) : (opacity node).Readable := by
  unfold opacity
  split
  · exact readable_one _ (isValue_plain _)
  · exact readable_empty

theorem readable_aspects (node : Node) (isText : Bool) :
    ∀ aspect ∈ aspects node isText, aspect.Readable := by
  have font : ∀ aspect ∈ (if isText then [textStyle node] else []), aspect.Readable := by
    cases isText with
    | true => simpa using readable_textStyle node
    | false => simp
  simp only [aspects, List.forall_mem_append, List.forall_mem_cons, List.not_mem_nil,
    false_implies, implies_true, and_true]
  exact ⟨⟨⟨readable_layout node, readable_alignment node, readable_spacing node,
    (readable_extent _ _ _).merge (readable_extent _ _ _), readable_fill node isText,
    readable_border node, readable_cornerRadius node⟩, font⟩, readable_effects node,
    readable_opacity node⟩

theorem readable_styles (node : Node) (isText : Bool) : (styles node isText).Readable := by
  intro entry found
  rw [entries_styles] at found
  obtain ⟨aspect, isAspect, isEntry⟩ := List.mem_flatMap.mp found
  exact readable_aspects node isText aspect isAspect entry isEntry

theorem isIdentifier_of_mem_styles {node : Node} {isText : Bool} {entry : String × StyleValue}
    (found : entry ∈ (styles node isText).entries) :
    CssReader.isIdentifier entry.1.toList = true := by
  have names : ∀ property ∈ propertyOrder, CssReader.isIdentifier property.toList = true := by
    decide +kernel
  exact names entry.1 ((aspectProperties_sublist isText).subset
    ((fits_styles node isText).among.subset (List.mem_map_of_mem found)))

end Style

end DesignToCode
