import PageScheme.Proofs.Extraction.Transposing
import PageScheme.Proofs.Scheme.Position

/-!
# What a run can fail with

A run names the place in the scheme that it fails at: a path that is no selector or finds nothing,
the key of a field that gives another count than the fields before it, the kind of a foreign node.
So the origin of a fault is a node of the scheme, at a position that leads through fields and
element schemes alone. Which faults there are depends on whether the node lies below a list: there a
path that finds nothing gives no items, while outside of lists no counts are compared.

Besides, a path may not be looked up at all: it compares with a character that XML has no place for,
or names a space that the page does not know.
-/
namespace PageScheme.Extraction

open Scheme

variable {url : Text} {p : Place} {inside : Bool} {scheme : Scheme} {fault : Fault}

/-- Runs do not look at copies of element schemes. -/
def OfRules (position : Position) : Prop := ∀ index, .copy index ∉ position

theorem OfRules.nil : OfRules [] := nofun

/-- A position lies below the element scheme of a list, which may be one around the scheme. -/
def BelowList (inside : Bool) (position : Position) : Prop :=
  inside = true ∨ .element ∈ position

/-- The origin of a fault, of a run for an address at a place. The scheme itself may lie inside of a
list. -/
inductive Origin (url : Text) (p : Place) (inside : Bool) (scheme : Scheme) : Fault → Prop
  | invalidPath {position : Position} {path : Text} :
      OfRules position → (scheme.at? position).bind path? = some path → path ≠ [] →
      (∃ place, selectAll url (some path) place = .error (.invalidPath path url)) →
      Origin url p inside scheme (.invalidPath path url)
  | noElement {position : Position} {path : Text} :
      OfRules position → ¬ BelowList inside position →
      (scheme.at? position).bind path? = some path → path ≠ [] →
      selectAll url (some path) p = .ok [] →
      Origin url p inside scheme (.noElement path url)
  /-- A field that is not the first one with a scheme, and gives another count than that one. -/
  | mismatchedCount {position : Position} {label : Label} {front rest : List (Field Scheme)}
      {key : Text} {value : Scheme} {expected found : Nat} :
      OfRules position → BelowList inside position →
      scheme.at? position = some (.object label (front ++ ⟨key, some value⟩ :: rest)) →
      (∃ earlier ∈ front, earlier.value.isSome) → expected ≠ found →
      (∃ place, leadingCount? url place front = some expected ∧
        GivesCount url place found ⟨key, some value⟩) →
      Origin url p inside scheme (.mismatchedCount key expected found url)
  | schemeKind {position : Position} {node : Foreign} :
      OfRules position → scheme.at? position = some (.foreign node) →
      Origin url p inside scheme (.schemeKind node.kind)
  | forbiddenCharacter : Origin url p inside scheme .forbiddenCharacter
  | undefinedPrefix : Origin url p inside scheme .undefinedPrefix

namespace Origin

/-- The faults of a run that do not concern the scheme are those of looking up a path. -/
theorem lookup (origin : Origin url p inside scheme fault)
    (unrelated : fault.concernsScheme = false) :
    fault = .forbiddenCharacter ∨ fault = .undefinedPrefix := by
  cases origin with
  | forbiddenCharacter => exact .inl rfl
  | undefinedPrefix => exact .inr rfl
  | _ => cases unrelated

/-- What fails at a node that a branch leads to fails in the node. Outside of lists the place is the
same. -/
theorem child {child : Scheme} {branch : Branch} {deeper : Bool} {place : Place}
    (leads : scheme.child? branch = some child) (rule : ∀ index, branch ≠ .copy index)
    (deeper_iff : deeper = true ↔ inside = true ∨ branch = .element)
    (same_place : deeper = false → place = p) (origin : Origin url place deeper child fault) :
    Origin url p inside scheme fault := by
  have rules : ∀ rest, OfRules rest → OfRules (branch :: rest) := by
    intro rest of_rules index
    simp [(rule index).symm, of_rules index]
  have below_iff : ∀ rest, BelowList inside (branch :: rest) ↔ BelowList deeper rest := by
    intro rest
    rw [BelowList, BelowList, deeper_iff, List.mem_cons, or_assoc, eq_comm (a := Branch.element)]
  cases origin with
  | @invalidPath position path of_rules names nonempty refused =>
    rw [← at?_cons_of_child position leads] at names
    exact .invalidPath (rules _ of_rules) names nonempty refused
  | @noElement position path of_rules outside names nonempty missing =>
    have not_deeper : deeper = false := by
      by_contra is_deeper
      exact outside (.inl (by simpa using is_deeper))
    rw [← at?_cons_of_child position leads] at names
    rw [same_place not_deeper] at missing
    exact .noElement (rules _ of_rules) (fun below => outside ((below_iff _).mp below)) names
      nonempty missing
  | @mismatchedCount position label front rest key value expected found of_rules below names =>
    rw [← at?_cons_of_child position leads] at names
    exact .mismatchedCount (rules _ of_rules) ((below_iff _).mpr below) names ‹_› ‹_› ‹_›
  | @schemeKind position node of_rules names =>
    rw [← at?_cons_of_child position leads] at names
    exact .schemeKind (rules _ of_rules) names
  | forbiddenCharacter => exact .forbiddenCharacter
  | undefinedPrefix => exact .undefinedPrefix

theorem element {child : Scheme} {place : Place} (leads : scheme.child? .element = some child)
    (origin : Origin url place true child fault) : Origin url p inside scheme fault :=
  origin.child leads (by simp) (by simp) (by simp)

theorem field {label : Label} {fields : List (Field Scheme)} {field : Field Scheme}
    {value : Scheme} (member : field ∈ fields) (is_value : value ∈ field.value)
    (origin : Origin url p inside value fault) :
    Origin url p inside (.object label fields) fault := by
  obtain ⟨index, found⟩ := List.mem_iff_getElem?.mp member
  have leads : (Scheme.object label fields).child? (.field index) = some value :=
    Option.bind_eq_some_iff.mpr ⟨field, found, is_value⟩
  exact origin.child leads (by simp) (by simp) (fun _ => rfl)

theorem of_selectAll {path : Option Text} {place : Place} (own_path : scheme.path? = given path)
    (failed : selectAll url path place = .error fault) : Origin url p inside scheme fault := by
  rw [selectAll] at failed
  split at failed
  · cases failed
  next own is_given =>
    have nonempty : own ≠ [] := (given_eq_some.mp is_given).2
    split at failed
    · cases failed
    next invalid =>
      cases failed
      refine .invalidPath OfRules.nil (own_path.trans is_given) nonempty ⟨place, ?_⟩
      simp only [selectAll, given_some_eq_some.mpr nonempty, invalid]
    · cases failed
      exact .forbiddenCharacter
    · cases failed
      exact .undefinedPrefix

theorem of_selectOne {path : Option Text} (own_path : scheme.path? = given path)
    (failed : selectOne url path p = .error fault) : Origin url p false scheme fault := by
  rw [selectOne] at failed
  cases selected : selectAll url path p with
  | error other =>
    rw [selected] at failed
    cases failed
    exact of_selectAll own_path selected
  | ok found =>
    rw [selected] at failed
    cases found with
    | cons first others => cases failed
    | nil =>
      cases failed
      -- Without a path the place itself is found, so there is one.
      cases is_given : given path with
      | none => simp [selectAll, is_given] at selected
      | some own =>
        obtain ⟨rfl, nonempty⟩ := given_eq_some.mp is_given
        exact .noElement OfRules.nil (by simp [BelowList]) (own_path.trans is_given)
          nonempty selected

end Origin

/-! ### Runs -/

theorem stop?_eq_some {expected : Option Nat} {field : Field Scheme} :
    stop? url p expected field = some fault ↔ ∃ value, field.value = some value ∧
      (many url value p = .error fault ∨ ∃ n values, expected = some n ∧
        many url value p = .ok values ∧ n ≠ values.length ∧
          fault = .mismatchedCount field.key n values.length url) := by
  obtain ⟨key, _ | value⟩ := field
  · simp [stop?]
  · cases ran : many url value p with
    | error own => simp [stop?, ran]
    | ok values =>
      cases expected with
      | none => simp [stop?, ran]
      | some n => by_cases same : n = values.length <;> simp [stop?, ran, same, eq_comm]

/-- A field that gives another count than expected is not the first one with a scheme. -/
theorem Origin.of_stop? {label : Label} {front rest : List (Field Scheme)} {field : Field Scheme}
    {value : Scheme} {values : List Json} {n : Nat} (is_value : field.value = some value)
    (leading : leadingCount? url p (front ++ field :: rest) = some n)
    (ran : many url value p = .ok values) (differs : n ≠ values.length) :
    Origin url p true (.object label (front ++ field :: rest))
      (.mismatchedCount field.key n values.length url) := by
  obtain ⟨key, _⟩ := field
  obtain rfl := is_value
  have gives : GivesCount url p values.length ⟨key, some value⟩ := by
    rintro _ ⟨⟩
    exact ⟨values, ran, rfl⟩
  cases valued : front.findSome? Field.value with
  | none =>
    -- Nothing before it has a scheme, so the count expected of it would be its own.
    have own : leadingCount? url p (front ++ ⟨key, some value⟩ :: rest) = some values.length := by
      simp [leadingCount?, List.findSome?_append, valued, ran, Except.toOption]
    exact absurd (Option.some_inj.mp (leading.symm.trans own)) differs
  | some first =>
    have in_front : leadingCount? url p (front ++ ⟨key, some value⟩ :: rest) =
        leadingCount? url p front := by
      simp [leadingCount?, List.findSome?_append, valued]
    obtain ⟨earlier, is_earlier, is_first⟩ := List.exists_of_findSome?_eq_some valued
    refine .mismatchedCount OfRules.nil (.inl rfl) rfl ?_ differs ?_
    · exact ⟨earlier, is_earlier, by simp [is_first]⟩
    · exact ⟨p, in_front.symm.trans leading, gives⟩

theorem failsOnly_many (scheme : Scheme) (p : Place) :
    FailsOnly (Origin url p true scheme) (many url scheme p) := by
  induction scheme generalizing p with
  | string label path reading content =>
    have selects : FailsOnly (Origin url p true (.string label path reading content))
        (selectAll url path p) :=
      fun _ failed => .of_selectAll rfl failed
    exact selects.bind fun _ => .ok _
  | list label path element content elements element_ih _ =>
    have selects : FailsOnly (Origin url p true (.list label path element content elements))
        (selectAll url path p) :=
      fun _ failed => .of_selectAll rfl failed
    cases element with
    | none => exact selects.bind fun _ => .ok _
    | some element =>
      apply selects.bind
      intro containers
      apply FailsOnly.mapM
      intro container
      exact ((element_ih element rfl container).imp fun _ origin => origin.element rfl).map _
  | object label fields ih =>
    intro fault failed
    obtain ⟨front, field, rest, rfl, stops, -⟩ := many_object_eq_error.mp failed
    obtain ⟨value, is_value, own | ⟨n, values, leading, ran, differs, rfl⟩⟩ :=
      stop?_eq_some.mp stops
    · have member : field ∈ front ++ field :: rest := by simp
      exact (ih field member value is_value p fault own).field member is_value
    · exact .of_stop? is_value leading ran differs
  | foreign node => exact .error (.schemeKind OfRules.nil rfl)

theorem failsOnly_members {allowed : Fault → Prop} {fields : List (Field Scheme)}
    (each : ∀ field ∈ fields, ∀ value ∈ field.value, FailsOnly allowed (one url value p)) :
    FailsOnly allowed (members url fields p) := by
  induction fields with
  | nil => exact .ok []
  | cons field rest ih =>
    obtain ⟨here, later⟩ := List.forall_mem_cons.mp each
    obtain ⟨key, _ | value⟩ := field
    · exact (ih later).bind fun _ => .ok _
    · exact (here value rfl).bind fun _ => (ih later).bind fun _ => .ok _

/-- Whatever a run fails with has its origin in the scheme. -/
theorem failsOnly_one (scheme : Scheme) (p : Place) :
    FailsOnly (Origin url p false scheme) (one url scheme p) := by
  induction scheme generalizing p with
  | string label path reading content =>
    have selects : FailsOnly (Origin url p false (.string label path reading content))
        (selectOne url path p) :=
      fun _ failed => .of_selectOne rfl failed
    exact selects.bind fun _ => .ok _
  | list label path element content elements =>
    have selects : FailsOnly (Origin url p false (.list label path element content elements))
        (selectOne url path p) :=
      fun _ failed => .of_selectOne rfl failed
    cases element with
    | none => exact selects.bind fun _ => .ok _
    | some element =>
      apply selects.bind
      intro container
      have in_element :
          FailsOnly (Origin url p false (.list label path (some element) content elements))
            (many url element container) :=
        (failsOnly_many element container).imp fun _ origin => origin.element rfl
      exact in_element.bind fun _ => .ok _
  | object label fields ih =>
    have each : FailsOnly (Origin url p false (.object label fields)) (members url fields p) := by
      apply failsOnly_members
      intro field member value is_value
      exact (ih field member value is_value p).imp fun _ origin => origin.field member is_value
    exact each.bind fun _ => .ok _
  | foreign node => exact .error (.schemeKind OfRules.nil rfl)

/-- A fault of a run against a page that can be read has its origin in the scheme, and carries the
address of the run: paths that are refused belong to strings and lists, paths that find nothing to
those outside of lists, and counts differ at a field of an object below a list that comes behind
another one. -/
theorem origin_of_extract {source : Source} {page : Page} (read : Page.read source = .ok page)
    (failed : extract scheme source url = .error fault) :
    Origin url page.rootPlace false scheme fault := by
  have ran : one url scheme page.rootPlace = .error fault := by
    simpa [extract, read, bind, Except.bind] using failed
  exact failsOnly_one scheme page.rootPlace fault ran

/-- A list of pairs whose second halves are missing on the page. -/
def halves : Scheme :=
  .list {} none
    (some (.object {}
      [⟨Text.ofString "first", some (.string {} (some (Text.ofString "a")) .innerHtml .null)⟩,
        ⟨Text.ofString "second", some (.string {} (some (Text.ofString "b")) .innerHtml .null)⟩]))
    none none

def halvesPage : Source := .bytes (Utf8.encode "<a>1")

def halvesNodes : Page :=
  ⟨[], .element "html" [] [.element "body" [] [.element "a" [] [.text "1"]]], []⟩

/-- The second field is the one that is named, with the count of the first one and its own. -/
theorem halves_origin :
    Page.read halvesPage = .ok halvesNodes ∧
    extract halves halvesPage (Text.ofString "u") =
      .error (.mismatchedCount (Text.ofString "second") 1 0 (Text.ofString "u")) ∧
    Origin (Text.ofString "u") halvesNodes.rootPlace false halves
      (.mismatchedCount (Text.ofString "second") 1 0 (Text.ofString "u")) := by
  have read : Page.read halvesPage = .ok halvesNodes := by rfl
  have ran : one (Text.ofString "u") halves halvesNodes.rootPlace =
      .error (.mismatchedCount (Text.ofString "second") 1 0 (Text.ofString "u")) := rfl
  have failed : extract halves halvesPage (Text.ofString "u") =
      .error (.mismatchedCount (Text.ofString "second") 1 0 (Text.ofString "u")) := by
    rw [extract, read]
    exact ran
  exact ⟨read, failed, origin_of_extract read failed⟩

end PageScheme.Extraction
