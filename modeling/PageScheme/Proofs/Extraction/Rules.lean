import PageScheme.Proofs.Extraction.Conformity
import PageScheme.Proofs.Scheme.Skeleton

/-!
# Runs follow the rules alone

Nothing that a scheme shows of a page has a part in running it: a run of a scheme is a run of its
skeleton, down to the fault it ends with. So schemes of the same rules cannot be told apart by
running them, and since populating keeps the rules, a populated scheme reads from every page what it
read before.
-/
namespace PageScheme.Extraction

open Scheme

variable {url : Text}

theorem many_skeleton (scheme : Scheme) (p : Place) :
    many url scheme.skeleton p = many url scheme p := by
  induction scheme generalizing p with
  | string => rfl
  | list label path element old elements element_ih =>
    cases element with
    | none => rfl
    | some element => simp only [skeleton_list, Option.map_some, many, element_ih element rfl]
  | object label fields ih =>
    have same : columns url none (fields.map (Field.map skeleton)) p = columns url none fields p :=
      columns_map fun field member value is_value => ih field member value is_value p
    simp only [skeleton_object, many, same]
  | foreign => rfl

theorem one_skeleton (scheme : Scheme) (p : Place) :
    one url scheme.skeleton p = one url scheme p := by
  induction scheme generalizing p with
  | string => rfl
  | list label path element old elements =>
    cases element with
    | none => rfl
    -- Inside a container it is the other run that goes on.
    | some element => simp only [skeleton_list, Option.map_some, one, many_skeleton]
  | object label fields ih =>
    have same : members url (fields.map (Field.map skeleton)) p = members url fields p :=
      members_map fun field member value is_value => ih field member value is_value p
    simp only [skeleton_object, one, same]
  | foreign => rfl

/-- Schemes of the same rules run alike: they give the same values, or end with the same fault. -/
theorem runs_eq_of_skeleton_eq {scheme other : Scheme} (same : scheme.skeleton = other.skeleton)
    (url : Text) (p : Place) :
    one url scheme p = one url other p ∧ many url scheme p = many url other p := by
  constructor
  · rw [← one_skeleton scheme, same, one_skeleton]
  · rw [← many_skeleton scheme, same, many_skeleton]

theorem extract_eq_of_skeleton_eq {scheme other : Scheme} (same : scheme.skeleton = other.skeleton)
    (source : Source) (url : Text) : extract scheme source url = extract other source url := by
  simp only [extract, fun p => (runs_eq_of_skeleton_eq same url p).1]

/-- Populating keeps the rules of a scheme, and with the rules all that running it comes to. -/
theorem populate_keeps_runs :
    (∀ scheme other : Scheme, scheme.skeleton = other.skeleton → ∀ (url : Text) (p : Place),
      one url scheme p = one url other p ∧ many url scheme p = many url other p) ∧
    ∀ scheme : Scheme, scheme.Valid → ∀ (spread : Spread) (content : Json), ∃ filled,
      scheme.populate spread content = .ok filled ∧ filled.skeleton = scheme.skeleton ∧
        ∀ source url, extract filled source url = extract scheme source url := by
  refine ⟨fun scheme other same => runs_eq_of_skeleton_eq same, ?_⟩
  intro scheme valid spread content
  have same := skeleton_populated spread scheme content
  exact ⟨scheme.populated spread content, valid.populate_eq spread content, same,
    extract_eq_of_skeleton_eq same⟩

/-- A gallery that shows its pictures, with a copy for each of them, reads them as it did before. -/
theorem filled_gallery_reads_on :
    gallery.Valid ∧ ∃ filled, gallery.populate .perElement galleryContent = .ok filled ∧
      filled.skeleton = gallery.skeleton ∧ one [] filled galleryPlace = .ok galleryContent ∧
        ∀ source url, extract filled source url = extract gallery source url := by
  have valid : gallery.Valid := by simp [gallery, picture]
  have ran : one [] gallery galleryPlace = .ok galleryContent := rfl
  obtain ⟨alike, kept⟩ := populate_keeps_runs
  obtain ⟨filled, populated, same, extracts⟩ := kept gallery valid .perElement galleryContent
  obtain ⟨once, -⟩ := alike filled gallery same [] galleryPlace
  exact ⟨valid, filled, populated, same, once.trans ran, extracts⟩

end PageScheme.Extraction
