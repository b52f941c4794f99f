import Mathlib.Logic.Relation
import PageScheme.Proofs.Document.Loading
import PageScheme.Proofs.Json.Printed
import PageScheme.Proofs.Scheme.Populated
import PageScheme.Proofs.Scheme.Rebased

/-!
# Documents after any number of edits

A document is edited by rebasing its scheme, by populating it, by moving to a part of it, or by
writing and loading it again. On a valid scheme an edit is one of five plain changes
(`Edit.change`), so that what these keep holds after any number of edits (`holds_after_edits`).

Main result: a document that has been loaded and edited can be written unless a key in its content
is unfit for it or it goes too deep, and what has been written is loaded as the very document, also
from JSON text.
-/
namespace PageScheme

/-! ### Edits -/

/-- One edit leads from a document to another. -/
inductive Document.Edit (limits : Limits) : Document → Document → Prop
  | rebase {document : Document} {scheme : Scheme} (done : document.scheme.rebase = .ok scheme) :
      Edit limits document (document.withScheme scheme)
  | rebaseOnto {document : Document} {scheme : Scheme} (parent : Text)
      (done : document.scheme.rebaseOnto parent = .ok scheme) :
      Edit limits document (document.withScheme scheme)
  | populate {document : Document} {scheme : Scheme} (spread : Spread) (content : Json)
      (done : document.scheme.populate spread content = .ok scheme) :
      Edit limits document (document.withScheme scheme)
  /-- A part of a document is a document by itself. -/
  | part {document : Document} {scheme : Scheme} (branch : Scheme.Branch)
      (leads : document.scheme.child? branch = some scheme) : Edit limits document (.bare scheme)
  | reload {document next : Document} {value : Json} (written : document.write limits = .ok value)
      (loaded : Document.load limits (.ofJson value) = .ok next) : Edit limits document next

namespace Scheme

/-- What an edit makes of a valid scheme. -/
inductive Change : Scheme → Scheme → Prop
  | rebased (scheme : Scheme) : Change scheme scheme.rebased
  | rebasedOnto (parent : Text) (scheme : Scheme) : Change scheme (scheme.rebasedOnto parent)
  | populated (spread : Spread) (content : Json) (scheme : Scheme) :
      Change scheme (scheme.populated spread content)
  | child {scheme part : Scheme} {branch : Branch} (leads : scheme.child? branch = some part) :
      Change scheme part
  | finite (scheme : Scheme) : Change scheme scheme.finite

theorem Valid.child {scheme part : Scheme} {branch : Branch} (valid : scheme.Valid)
    (leads : scheme.child? branch = some part) : part.Valid := by
  cases valid with
  | string => cases branch <;> contradiction
  | list element_valid elements_valid =>
    exact forall_child?_list.mpr ⟨element_valid, elements_valid⟩ branch part leads
  | object fields_valid => exact forall_child?_object.mpr fields_valid branch part leads

/-- A change leaves the nodes of a scheme no deeper in each other. -/
theorem Change.admissible {room : Nat} {scheme next : Scheme} (change : Change scheme next)
    (admissible : scheme.Admissible room) : next.Admissible room := by
  obtain ⟨valid, within⟩ := admissible
  cases change with
  | rebased => exact ⟨valid.rebased, within.rebased⟩
  | rebasedOnto parent => exact ⟨valid.rebasedOnto parent, within.rebasedOnto parent⟩
  | populated spread content =>
    exact ⟨valid.populated spread content, within.populated spread content⟩
  | child leads => exact ⟨valid.child leads, within.child leads⟩
  | finite => exact admissible_of_check (check_toJson valid within)

end Scheme

namespace Document

variable {limits : Limits} {start document next : Document}

theorem Edit.change (edit : Edit limits document next)
    (admissible : document.scheme.Admissible limits.nodes) :
    Scheme.Change document.scheme next.scheme := by
  have valid := admissible.valid
  cases edit with
  | rebase done =>
    obtain rfl := Except.ok.inj (valid.rebase_eq.symm.trans done)
    rw [scheme_withScheme]
    exact .rebased document.scheme
  | rebaseOnto parent done =>
    obtain rfl := Except.ok.inj ((valid.rebaseOnto_eq parent).symm.trans done)
    rw [scheme_withScheme]
    exact .rebasedOnto parent document.scheme
  | populate spread content done =>
    obtain rfl := Except.ok.inj ((valid.populate_eq spread content).symm.trans done)
    rw [scheme_withScheme]
    exact .populated spread content document.scheme
  | part branch leads => exact .child leads
  | reload written loaded =>
    obtain ⟨-, rfl⟩ := write_eq_ok.mp written
    obtain rfl := Except.ok.inj ((load_toJson admissible).symm.trans loaded)
    rw [scheme_withScheme]
    exact .finite document.scheme

/-- A property of schemes that every change keeps holds after any number of edits. -/
theorem holds_after_edits (holds : Scheme → Prop)
    (kept : ∀ {scheme next : Scheme}, Scheme.Change scheme next → holds scheme → holds next)
    (edits : Relation.ReflTransGen (Edit limits) start document)
    (admissible : start.scheme.Admissible limits.nodes) (begins : holds start.scheme) :
    document.scheme.Admissible limits.nodes ∧ holds document.scheme := by
  induction edits with
  | refl => exact ⟨admissible, begins⟩
  | tail edits edit ih =>
    obtain ⟨admissible_so_far, so_far⟩ := ih
    have change := edit.change admissible_so_far
    exact ⟨change.admissible admissible_so_far, kept change so_far⟩

theorem admissible_after_edits {written : Written} (loaded : load limits written = .ok start)
    (edits : Relation.ReflTransGen (Edit limits) start document) :
    document.scheme.Admissible limits.nodes := by
  obtain ⟨admissible, -⟩ := holds_after_edits (fun _ => True) (fun _ _ => trivial) edits
    (admissible_of_load loaded) trivial
  exact admissible

end Document

/-! ### Loading undoes writing -/

/-- What is given holds a JSON value: as such, or as text that is read as it. -/
def Written.Holds (limits : Limits) : Written → Json → Prop
  | .value given, held => given = held
  | .text letters, held => Json.readText limits.document letters = .ok held
  | .bytes octets, held => ∃ letters, Json.decode octets = .ok letters ∧
      Json.readDecoded limits.document letters = .ok held

namespace Document

variable {limits : Limits}

theorem load_of_holds {given : Written} {held : Json} (holds : given.Holds limits held) :
    load limits given = loadValue limits held := by
  cases given with
  | value value =>
    have same : value = held := holds
    rw [load, same]
  | text letters =>
    have read : Json.readText limits.document letters = .ok held := holds
    rw [load, read, loadReading]
  | bytes octets =>
    obtain ⟨letters, decoded, read⟩ := holds
    simp only [load, decoded, read, loadReading]

@[simp] theorem withScheme_scheme (document : Document) :
    document.withScheme document.scheme = document := by
  cases document <;> rfl

/-- A document that has been loaded and edited can be written if and only if no key in its content
is unfit for it and there is room for its levels, and it is the document that is loaded from what
has been written, in whatever form that is given. -/
theorem load_written_after_edits {written : Written} {start document : Document}
    (loaded : load limits written = .ok start)
    (edits : Relation.ReflTransGen (Edit limits) start document)
    (each_finite : document.scheme.EveryContent Json.IsFinite) :
    ((∃ value, document.write limits = .ok value) ↔
      document.scheme.EveryContent Json.KeysWellFormed ∧
        document.scheme.LevelsWithin limits.values) ∧
    ∀ value, document.write limits = .ok value →
      load limits (.ofJson value) = .ok document ∧
        ∀ given : Written, given.Holds limits value → load limits given = .ok document := by
  have admissible := admissible_after_edits loaded edits
  have same : document.withScheme document.scheme.finite = document := by
    rw [Scheme.finite_eq_self each_finite, withScheme_scheme]
  refine ⟨written_iff admissible.valid, ?_⟩
  intro value is_written
  obtain ⟨-, rfl⟩ := write_eq_ok.mp is_written
  refine ⟨(load_toJson admissible).trans (congrArg _ same), ?_⟩
  intro given holds
  rw [load_of_holds holds, loadValue_toJson admissible, same]

/-- Instructions for the items of a list, as they are given. -/
def givenShelf : Json :=
  .ofMembers [("url", .ofString "http://shop/"), ("scheme", .ofMembers [("type", .ofString "LIST"),
    ("path", .ofString "ul"), ("element_scheme", .ofMembers [("type", .ofString "STRING"),
      ("path", .ofString "ul > li"), ("mode", .ofString "SRC")])])]

def shelfOf (scheme : Scheme) : Document := .instructions ⟨Text.ofString "http://shop/", scheme⟩

def shelfItem (path : String) (content : Json) : Scheme :=
  .string {} (some (Text.ofString path)) .source content

def shelf : Document :=
  shelfOf (.list {} (some (Text.ofString "ul")) (some (shelfItem "ul > li" .null)) none none)

def stock : List Json := [.int 3, .array [.null]]

/-- The list of the shelf with a copy for each item of the stock, all read at one path. -/
def filledShelf (path : String) : Scheme :=
  .list {} (some (Text.ofString "ul")) (some (shelfItem path (.int 3))) (some stock)
    (some (stock.map (shelfItem path)))

def stockedShelf : Document := shelfOf (filledShelf "li")

set_option maxRecDepth 4096 in
theorem stockedShelf_printed :
    (Written.bytes (Utf8.encode (stockedShelf.toJson.indented ++ "\n"))).Holds .usual
      stockedShelf.toJson := by
  refine ⟨Text.ofString (stockedShelf.toJson.indented ++ "\n"), ?_, ?_⟩
  · rw [Text.ofString, Utf8.encode, Json.toList_printed]
    rfl
  · rw [Text.ofString, Json.toList_printed]
    cbv

/-- What a populated list is printed as is read as the list again. -/
theorem stockedShelf_loaded_as_written :
    load .usual (.value givenShelf) = .ok shelf ∧
      Relation.ReflTransGen (Edit .usual) shelf stockedShelf ∧
        stockedShelf.scheme.EveryContent Json.IsFinite ∧
          ∃ value, stockedShelf.write .usual = .ok value ∧
            load .usual (.ofJson value) = .ok stockedShelf ∧
              load .usual (.bytes (Utf8.encode (value.indented ++ "\n"))) = .ok stockedShelf := by
  have loaded : load .usual (.value givenShelf) = .ok shelf := rfl
  have populated : shelf.scheme.populate .perElement (.array stock) =
      .ok (filledShelf "ul > li") := rfl
  have rebased : (filledShelf "ul > li").rebase = .ok (filledShelf "li") := by rfl
  have edits : Relation.ReflTransGen (Edit .usual) shelf stockedShelf :=
    .tail (.single (.populate .perElement (.array stock) populated)) (.rebase rebased)
  have each_finite : stockedShelf.scheme.EveryContent Json.IsFinite := by
    have nested : (Json.array [.null]).IsFinite := .array (by simp [Json.IsFinite.null])
    simp [stockedShelf, shelfOf, scheme, filledShelf, shelfItem, stock, Scheme.everyContent_list,
      Json.IsFinite.int, nested]
  have written : stockedShelf.write .usual = .ok stockedShelf.toJson := by rfl
  obtain ⟨as_value, as_given⟩ := (load_written_after_edits loaded edits each_finite).2 _ written
  exact ⟨loaded, edits, each_finite, stockedShelf.toJson, written, as_value,
    as_given _ stockedShelf_printed⟩

/-! ### What is not written -/

/-- A string that holds some content. -/
def holding (content : Json) : Document := .bare (.string {} none .innerHtml content)

theorem everyContent_holding {holds : Json → Prop} {content : Json} :
    (holding content).scheme.EveryContent holds ↔ holds content :=
  Scheme.everyContent_string

theorem load_holding {content : Json} (is_finite : content.IsFinite) :
    load .usual (.ofJson (holding content).toJson) = .ok (holding content) := by
  have admissible : (holding content).scheme.Admissible Limits.usual.nodes :=
    Scheme.admissible_string
  rw [load_toJson admissible]
  show Except.ok (holding content.finite) = _
  rw [is_finite.finite_eq]

theorem holding_written_iff {content : Json} (given : content ≠ .null) :
    (∃ value, (holding content).write .usual = .ok value) ↔
      content.KeysWellFormed ∧ content.levels < Limits.usual.values := by
  have valid : (holding content).scheme.Valid := .string
  have not_null : content.isNull = false := by
    cases content with
    | null => exact absurd rfl given
    | _ => rfl
  rw [written_iff valid, everyContent_holding, holding, scheme, Limits.usual,
    Scheme.levelsWithin_string, not_null, Nat.lt_succ_iff]
  simp

/-- Content with a lone surrogate for a key. -/
def unfit : Json := .object [([.lone 0], .int 1)]

theorem isFinite_unfit : unfit.IsFinite := .object (by simp [Json.IsFinite.int])

theorem unfit_refused : ¬ ∃ value, (holding unfit).write .usual = .ok value := by
  rw [holding_written_iff (by nofun), unfit, Json.keysWellFormed_object]
  rintro ⟨⟨keys, -⟩, -⟩
  exact absurd (keys _ List.mem_cons_self) (by decide)

theorem levelsWithin_unfit : (holding unfit).scheme.LevelsWithin Limits.usual.values :=
  Scheme.levelsWithin_string.mpr (.inr (by decide))

theorem nested_refused : ¬ ∃ value, (holding (.nested 300)).write .usual = .ok value := by
  rw [holding_written_iff (by nofun), Json.levels_nested]
  rintro ⟨-, few_levels⟩
  exact absurd few_levels (by decide)

/-- Whatever document has been loaded and edited, and has a property, is loaded as it is written. -/
def AllWritten (holds : Scheme → Prop) : Prop :=
  ∀ (written : Written) (start document : Document), load .usual written = .ok start →
    Relation.ReflTransGen (Edit .usual) start document →
      document.scheme.EveryContent Json.IsFinite → holds document.scheme →
        ∃ value, document.write .usual = .ok value ∧ load .usual (.ofJson value) = .ok document

/-- A document with an unfit key in its content is never written, however shallow it is, nor is one
whose content goes too deep, whatever its keys are. -/
theorem not_all_documents_written :
    ¬ AllWritten (Scheme.LevelsWithin Limits.usual.values) ∧
      ¬ AllWritten (Scheme.EveryContent Json.KeysWellFormed) := by
  constructor
  · intro all_written
    obtain ⟨value, is_written, -⟩ := all_written _ _ _ (load_holding isFinite_unfit) .refl
      (everyContent_holding.mpr isFinite_unfit) levelsWithin_unfit
    exact unfit_refused ⟨value, is_written⟩
  · intro all_written
    obtain ⟨value, is_written, -⟩ :=
      all_written _ _ _ (load_holding (Json.isFinite_nested 300)) .refl
      (everyContent_holding.mpr (Json.isFinite_nested 300))
      (everyContent_holding.mpr (Json.keysWellFormed_nested 300))
    exact nested_refused ⟨value, is_written⟩

end Document
end PageScheme
