import DesignToCode.Proofs.CommandLine.Obstacles
import DesignToCode.Proofs.DesignLink

/-!
The command and the library agree on a response: both generate from its first node under one link.
-/

namespace DesignToCode.CommandLine

open DesignLink (BeginsWith isKeyChar isIdChar)

/-- The file key and the id of the node begin as they do in good links. -/
def GoodParts (options : Options) (input : DesignInput) : Prop :=
  ∃ key id, options.fileKey = some key ∧ input.nodeId = some id ∧
    BeginsWith isKeyChar key ∧ BeginsWith isIdChar id

theorem compile_eq_ok_iff {response : Response} {document : Node} {url : String}
    {settings : Settings}
    (isDocument : (DesignInput.response response).theDocument = .ok document) :
    Artifacts.compile url response settings = .ok (.generate document url settings) ↔
      (DesignLink.parse? url).isSome = true := by
  rw [DesignInput.theDocument] at isDocument
  rw [Artifacts.compile]
  cases first : response.firstDocument with
  | error error =>
      rw [first] at isDocument
      cases isDocument
  | ok found =>
      rw [first] at isDocument
      cases isDocument
      cases DesignLink.parse? url <;> simp [Except.map]

theorem isSome_parse?_of_linkFor {options : Options} {path : Path} {input : DesignInput}
    {url : String} (linked : linkFor options path input = .ok url)
    (good : options.url.isSome = true ∨ GoodParts options input) :
    (DesignLink.parse? url).isSome = true := by
  rw [linkFor] at linked
  cases given : options.url with
  | some link =>
      simp only [given] at linked
      split at linked
      · rename_i valid
        cases linked
        exact valid
      · cases linked
  | none =>
      rcases good with impossible | ⟨key, id, hasKey, hasId, keyBegins, idBegins⟩
      · rw [given] at impossible
        cases impossible
      · simp only [given, hasKey, hasId] at linked
        cases linked
        exact DesignLink.isSome_parse?_share keyBegins idBegins

theorem compile_eq_iff_of_make {options : Options} {settings : Settings} {path : Path}
    {text : String} {input : DesignInput} {artifacts : Artifacts} {events : List Event}
    (accepted : DesignInput.ofText text = .ok input)
    (generated : make options settings path (.ok text) = .ok ⟨.artifacts artifacts, events⟩) :
    ∃ url document, linkFor options path input = .ok url ∧
      artifacts = .generate document url settings ∧
      (∀ response, input = .response response →
        (Artifacts.compile url response settings = .ok artifacts ↔
          (DesignLink.parse? url).isSome = true)) ∧
      (options.url.isSome = true ∨ GoodParts options input →
        (DesignLink.parse? url).isSome = true) := by
  simp only [make, accepted] at generated
  cases isDocument : input.theDocument with
  | error error => simp [isDocument] at generated
  | ok document =>
      simp only [isDocument] at generated
      split at generated
      · cases generated
      · cases linked : linkFor options path input with
        | error error => simp [linked] at generated
        | ok url =>
            simp only [linked] at generated
            cases generated
            refine ⟨url, document, rfl, rfl, ?_, isSome_parse?_of_linkFor linked⟩
            rintro response rfl
            exact compile_eq_ok_iff isDocument

def cardResponse : String :=
  "\x7b\"nodes\": \x7b\"1:1\": \x7b\"document\": \x7b\"id\": \"1:1\", " ++
    "\"name\": \"Card\", \"type\": \"FRAME\"\x7d\x7d\x7d\x7d"

def cardOptions (key : String) : Options :=
  { Options.none with inputs := [⟨"card.json"⟩], fileKey := some key }

def responseOf? (text : String) : Option Response :=
  match DesignInput.ofText text with
  | .ok (.response response) => some response
  | _ => none

theorem ofText_of_responseOf? {text : String} {response : Response}
    (isResponse : responseOf? text = some response) :
    DesignInput.ofText text = .ok (.response response) := by
  rw [responseOf?] at isResponse
  split at isResponse
  · rename_i found accepted
    cases isResponse
    exact accepted
  · cases isResponse

theorem exists_accepted_cardResponse :
    ∃ response document, DesignInput.ofText cardResponse = .ok (.response response) ∧
      response.nodes.keys.head? = some "1:1" ∧
      (DesignInput.response response).theDocument = .ok document := by
  have isResponse : ((responseOf? cardResponse).any fun response =>
      response.nodes.keys.head? == some "1:1" && response.firstDocument.isOk) = true := by
    decide +kernel
  rw [Option.any_eq_true] at isResponse
  obtain ⟨response, isCard, checked⟩ := isResponse
  rw [Bool.and_eq_true, beq_iff_eq] at checked
  obtain ⟨isFirst, isDocument⟩ := checked
  cases first : response.firstDocument with
  | error error => simp [first, Except.isOk, Except.toBool] at isDocument
  | ok found =>
      exact ⟨response, found.2, ofText_of_responseOf? isCard, isFirst, by
        rw [DesignInput.theDocument, first]
        rfl⟩

theorem make_cardOptions (key : String) :
    ∃ response artifacts events,
      DesignInput.ofText cardResponse = .ok (.response response) ∧
      linkFor (cardOptions key) ⟨"card.json"⟩ (.response response) =
        .ok (DesignLink.share key "1:1") ∧
      make (cardOptions key) .standard ⟨"card.json"⟩ (.ok cardResponse) =
        .ok ⟨.artifacts artifacts, events⟩ ∧
      (DesignInput.response response).nodeId = some "1:1" := by
  obtain ⟨response, document, accepted, isNode, isDocument⟩ := exists_accepted_cardResponse
  have linked : linkFor (cardOptions key) ⟨"card.json"⟩ (.response response) =
      .ok (DesignLink.share key "1:1") := by
    simp only [linkFor, cardOptions, Options.none, DesignInput.nodeId, isNode]
  refine ⟨response, .generate document (DesignLink.share key "1:1") .standard,
    Trace.ofGeneration document (DesignLink.share key "1:1") .standard, accepted, linked, ?_,
    isNode⟩
  simp only [make, accepted, isDocument, linked]
  rfl

theorem compile_eq_iff_of_make_cardResponse :
    ∃ response artifacts events,
      DesignInput.ofText cardResponse = .ok (.response response) ∧
      make (cardOptions "ABC123") .standard ⟨"card.json"⟩ (.ok cardResponse) =
        .ok ⟨.artifacts artifacts, events⟩ ∧
      GoodParts (cardOptions "ABC123") (.response response) ∧
      Artifacts.compile (DesignLink.share "ABC123" "1:1") response .standard = .ok artifacts := by
  obtain ⟨response, artifacts, events, accepted, linked, generated, isNode⟩ :=
    make_cardOptions "ABC123"
  have good : GoodParts (cardOptions "ABC123") (.response response) :=
    ⟨"ABC123", "1:1", rfl, isNode, rfl, rfl⟩
  obtain ⟨url, _, sameLink, _, compiles, isGood⟩ := compile_eq_iff_of_make accepted generated
  have url_eq : url = DesignLink.share "ABC123" "1:1" := Except.ok.inj (sameLink.symm.trans linked)
  refine ⟨response, artifacts, events, accepted, generated, good, ?_⟩
  rw [← url_eq]
  exact (compiles response rfl).mpr (isGood (Or.inr good))

theorem not_compiled_cardResponse :
    let url := "https://www.figma.com/design/?node-id=1-1"
    ∃ response artifacts events,
      DesignInput.ofText cardResponse = .ok (.response response) ∧
      linkFor (cardOptions "") ⟨"card.json"⟩ (.response response) = .ok url ∧
      make (cardOptions "") .standard ⟨"card.json"⟩ (.ok cardResponse) =
        .ok ⟨.artifacts artifacts, events⟩ ∧
      DesignLink.parse? url = none ∧
      Artifacts.compile url response .standard = .error (.invalidLink url) := by
  intro url
  obtain ⟨response, artifacts, events, accepted, linked, generated, _⟩ := make_cardOptions ""
  have shared : DesignLink.share "" "1:1" = url := by rfl
  have bad : DesignLink.parse? "https://www.figma.com/design/?node-id=1-1" = none := by rfl
  rw [shared] at linked
  refine ⟨response, artifacts, events, accepted, linked, generated, bad, ?_⟩
  rw [Artifacts.compile, bad]

end DesignToCode.CommandLine
