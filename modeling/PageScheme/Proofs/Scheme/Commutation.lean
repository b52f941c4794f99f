import PageScheme.Proofs.Scheme.Populated
import PageScheme.Proofs.Scheme.Rebased

/-!
# Rebasing and populating commute

Rebasing reads the paths of a scheme and writes paths; populating reads the content and writes
contents and copies. The one point at which they meet is the copies of an element scheme: they are
made from the element scheme as it is when the scheme is populated, and rebasing treats them as it
treats the element scheme. So it does not matter which of the two comes first, also where a list has
no path, or has copies of an earlier content but no element scheme.
-/
namespace PageScheme.Scheme

/-- Copies of an element scheme are expressed from a path as the element scheme is. -/
theorem copies_rebasedOnto {spread : Spread} {element : Scheme} {own : Text} (items : List Json)
    (commutes : ∀ content, (element.populated spread content).rebasedOnto own =
      (element.rebasedOnto own).populated spread content) :
    (copies spread element items).map (List.map (rebasedOnto own)) =
      copies spread (element.rebasedOnto own) items := by
  cases spread with
  | representative => rfl
  | perElement =>
    simp only [copies, Option.map_some, List.map_map, Option.some.injEq]
    exact List.map_congr_left fun item _ => commutes item

/-- A change of schemes that commutes with populating also does so inside a field. -/
theorem fieldPopulated_map {spread : Spread} {change : Scheme → Scheme} {field : Field Scheme}
    (content : Json)
    (commutes : ∀ scheme ∈ field.value, ∀ found,
      change (scheme.populated spread found) = (change scheme).populated spread found) :
    (fieldPopulated spread content field).map change =
      fieldPopulated spread content (field.map change) := by
  obtain ⟨key, value⟩ := field
  cases value with
  | none => rfl
  | some value =>
    simp only [fieldPopulated, populatedFrom, Field.map, Option.map_some]
    -- Where the content does not have the key, populating does nothing in either order.
    cases content.get? key with
    | none => rfl
    | some found => simp only [commutes value rfl]

theorem populated_rebasedOnto (spread : Spread) (scheme : Scheme) (content : Json) (parent : Text) :
    (scheme.populated spread content).rebasedOnto parent =
      (scheme.rebasedOnto parent).populated spread content := by
  -- A list passes on its own path as the parent, and each item is populated with a content of its
  -- own, so both are generalized.
  induction scheme generalizing content parent with
  | string => rfl
  | foreign => rfl
  | list label path element old elements element_ih _ =>
    cases found : given path with
    | none =>
      -- Nothing is rewritten in either order, since populating keeps the path.
      cases element <;> simp [rebasedOnto_list_of_none _ _ _ _ _ _ found]
    | some own =>
      cases element with
      -- Copies are dropped by populating, so that they have been rewritten does not matter.
      | none => simp [rebasedOnto_list _ _ _ _ _ _ found]
      | some element =>
        have commutes := fun content => element_ih element rfl content own
        simp only [populated_list, rebasedOnto_list _ _ _ _ _ _ found, Option.map_some, commutes,
          copies_rebasedOnto _ commutes]
  | object label fields ih =>
    simp only [populated_object, rebasedOnto_object, List.map_map]
    congr 1
    apply List.map_congr_left
    intro field member
    exact fieldPopulated_map content fun value is_value found =>
      ih field member value is_value found parent

theorem populated_rebased (spread : Spread) (scheme : Scheme) (content : Json) :
    (scheme.populated spread content).rebased = scheme.rebased.populated spread content := by
  induction scheme generalizing content with
  | string => rfl
  | foreign => rfl
  | list label path element old elements =>
    cases element with
    | none => rfl
    | some element =>
      cases found : given path with
      | none => simp [rebased_list_of_none _ _ _ _ _ found]
      | some own =>
        -- Below an outermost list it is the other pass that goes on.
        have commutes := fun content => populated_rebasedOnto spread element content own
        simp only [populated_list, rebased_list _ _ _ _ _ found, commutes,
          copies_rebasedOnto _ commutes]
  | object label fields ih =>
    simp only [populated_object, rebased_object, List.map_map]
    congr 1
    apply List.map_congr_left
    intro field member
    exact fieldPopulated_map content fun value is_value found =>
      ih field member value is_value found

/-- Rebasing a populated scheme and populating a rebased one both succeed, with the same result; and
so for what is expressed from a path. -/
theorem rebase_populate_comm {scheme : Scheme} (valid : scheme.Valid) (spread : Spread)
    (content : Json) (parent : Text) :
    (∃ result, (do (← scheme.populate spread content).rebase) = .ok result ∧
      (do (← scheme.rebase).populate spread content) = .ok result) ∧
    ∃ result, (do (← scheme.populate spread content).rebaseOnto parent) = .ok result ∧
      (do (← scheme.rebaseOnto parent).populate spread content) = .ok result := by
  have populates := valid.populate_eq spread content
  refine ⟨⟨(scheme.populated spread content).rebased, ?_, ?_⟩,
    ⟨(scheme.populated spread content).rebasedOnto parent, ?_, ?_⟩⟩
  · rw [populates]
    exact (valid.populated spread content).rebase_eq
  · rw [valid.rebase_eq, populated_rebased]
    exact valid.rebased.populate_eq spread content
  · rw [populates]
    exact (valid.populated spread content).rebaseOnto_eq parent
  · rw [valid.rebaseOnto_eq, populated_rebasedOnto]
    exact (valid.rebasedOnto parent).populate_eq spread content

/-- A list with copies of an earlier content. -/
def staleShelf : Scheme :=
  list {} (some (Text.ofString "ul > li"))
    (some (object {} [⟨Text.ofString "title",
      some (string {} (some (Text.ofString "ul > li > b")) .innerHtml .null)⟩]))
    (some [.null]) (some [string {} (some (Text.ofString "ul > li > i")) .innerHtml .null])

def shelfContent : Json := .array [.object [(Text.ofString "title", .ofString "b")]]

/-- Where copies of an earlier content are replaced, the new ones are rebased in either order. -/
theorem staleShelf_rebase_populate :
    staleShelf.Valid ∧
      ∃ result, (do (← staleShelf.populate .perElement shelfContent).rebase) = .ok result ∧
        (do (← staleShelf.rebase).populate .perElement shelfContent) = .ok result := by
  have valid : staleShelf.Valid := by simp [staleShelf]
  exact ⟨valid, (rebase_populate_comm valid .perElement shelfContent []).1⟩

end PageScheme.Scheme
