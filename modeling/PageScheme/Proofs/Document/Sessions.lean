import PageScheme.Proofs.Document.Editing
import PageScheme.Proofs.Sequencing
import PageScheme.Session

/-!
# What sessions come to

A session is changed by what succeeds alone. Unless something is picked, an action that succeeds
leaves the document as it is, edits it, or moves to a part that is absent (`turn_of_act`), where
nothing succeeds any more (`act_ne_ok_of_absent`). What is picked becomes one more field of an
object (`adds_of_pick`).

Main results: as long as nothing is picked, a session stands at a document that edits lead to, or at
an absent part (`edited_or_absent_after`). Whatever is picked, its document may be made of a
document (`admissible_or_absent_after`), so that to write and load it changes nothing
(`reload_after`).
-/
namespace PageScheme

namespace Document

/-- What stands for a part that is absent. -/
def absent : Document := .bare (.foreign (.raw .null))

/-- What an action that succeeds makes of a document, if nothing is picked. -/
inductive Turn (limits : Limits) (document : Document) : Document → Prop
  | stay : Turn limits document document
  | edit {next : Document} (edit : Edit limits document next) : Turn limits document next
  | leave : Turn limits document absent

section
variable {limits : Limits} {start document next : Document}

theorem Turn.edited_or_absent (turn : Turn limits document next)
    (edits : Relation.ReflTransGen (Edit limits) start document) :
    Relation.ReflTransGen (Edit limits) start next ∨ next = absent := by
  cases turn with
  | stay => exact .inl edits
  | edit edit => exact .inl (edits.tail edit)
  | leave => exact .inr rfl

theorem Turn.admissible_or_absent (turn : Turn limits document next)
    (admissible : document.scheme.Admissible limits.nodes) :
    next.scheme.Admissible limits.nodes ∨ next = absent := by
  cases turn with
  | stay => exact .inl admissible
  | edit edit => exact .inl ((edit.change admissible).admissible admissible)
  | leave => exact .inr rfl

end
end Document

/-- A scheme for what is picked: a string at a path, which may be the item of a list. -/
inductive Scheme.Picked : Scheme → Prop
  | element (path : Text) (reading : Reading) : Picked (.string {} (some path) reading .null)
  | item (container path : Text) (reading : Reading) :
      Picked (.list {} (some container) (some (.string {} (some path) reading .null)) none none)

theorem Scheme.Picked.admissible {room : Nat} {picked : Scheme} (is_picked : picked.Picked) :
    picked.Admissible (room + 2) := by
  cases is_picked with
  | element => exact admissible_string
  | item =>
    refine admissible_list ?_ nofun
    rintro scheme ⟨⟩
    exact admissible_string

/-- One document has one more field than another, for what is picked. -/
def Document.AddsPicked (document next : Document) : Prop :=
  ∃ label fields key picked, document.scheme = .object label fields ∧ Scheme.Picked picked ∧
    next = document.withScheme (.object label (fields ++ [⟨key, some picked⟩]))

theorem Document.AddsPicked.admissible {room : Nat} {document next : Document}
    (adds : document.AddsPicked next) (enough : 3 ≤ room)
    (admissible : document.scheme.Admissible room) : next.scheme.Admissible room := by
  obtain ⟨label, fields, key, picked, is_object, is_picked, rfl⟩ := adds
  obtain ⟨room, rfl⟩ := Nat.exists_eq_add_of_le' enough
  rw [is_object] at admissible
  obtain ⟨valid, within⟩ := admissible
  rw [scheme_withScheme]
  -- The object is the first level, and what is picked takes up two more.
  refine Scheme.admissible_object ?_
  intro field member scheme is_value
  rcases List.mem_append.mp member with old | added
  · exact ⟨Scheme.valid_object.mp valid field old scheme is_value,
      Scheme.nodesWithin_object.mp within field old scheme is_value⟩
  · obtain rfl := List.mem_singleton.mp added
    obtain rfl := Option.some_inj.mp is_value
    exact is_picked.admissible

namespace Session

variable {limits : Limits} {s next : Session} {action : Action} {answer : Json}

/-! ### The parts of an action -/

theorem orFail_eq_ok {α : Type} {step : Except Fault α} {a : α} :
    orFail step = .ok a ↔ step = .ok a := by
  cases step <;> simp [orFail, Except.mapError]

theorem applicable_eq_ok {α : Type} {found : Option α} {a : α} :
    applicable found = .ok a ↔ found = some a := by
  cases found <;> simp [applicable]

theorem moveTo_eq_ok {document : Document} : s.moveTo limits document = .ok (answer, next) ↔
    document.write limits = .ok answer ∧ next = { s with document } := by
  rw [moveTo, bind_eq_ok]
  simp only [orFail_eq_ok, pure, Except.pure, Except.ok.injEq, Prod.mk.injEq]
  constructor
  · rintro ⟨value, written, rfl, rfl⟩
    exact ⟨written, rfl⟩
  · rintro ⟨written, rfl⟩
    exact ⟨answer, written, rfl, rfl⟩

theorem revise_eq_ok {step : Scheme → Except Fault Scheme} :
    s.revise limits step = .ok (answer, next) ↔ ∃ scheme, step s.document.scheme = .ok scheme ∧
      (s.document.withScheme scheme).write limits = .ok answer ∧
        next = { s with document := s.document.withScheme scheme } := by
  simp only [revise, bind_eq_ok, orFail_eq_ok, moveTo_eq_ok]

theorem turn_partOf {part : Option Scheme}
    (below : ∀ scheme ∈ part, ∃ branch, s.document.scheme.child? branch = some scheme) :
    s.document.Turn limits (partOf part) := by
  cases part with
  | none => exact .leave
  | some scheme =>
    obtain ⟨branch, leads⟩ := below scheme rfl
    exact .edit (.part branch leads)

/-! ### One action -/

def Action.picks : Action → Bool
  | .pick .. => true
  | _ => false

theorem turn_of_act (acted : s.act limits action = .ok (answer, next))
    (picks_not : action.picks = false) : s.document.Turn limits next.document := by
  cases action with
  | rebase =>
    obtain ⟨scheme, done, -, rfl⟩ := revise_eq_ok.mp acted
    exact .edit (.rebase done)
  | rebaseOnto parent =>
    obtain ⟨scheme, done, -, rfl⟩ := revise_eq_ok.mp acted
    exact .edit (.rebaseOnto parent done)
  | populate content spread =>
    rw [act, revise_eq_ok] at acted
    obtain ⟨scheme, done, -, rfl⟩ := acted
    exact .edit (.populate spread _ done)
  | extract =>
    obtain ⟨content, -, same⟩ := bind_eq_ok.mp acted
    cases same
    exact .stay
  | reload =>
    simp only [act, bind_eq_ok, orFail_eq_ok, moveTo_eq_ok] at acted
    obtain ⟨value, written, document, loaded, -, rfl⟩ := acted
    exact .edit (.reload written loaded)
  | sources =>
    rw [act] at acted
    split at acted
    next => cases acted
    next =>
      obtain ⟨urls, -, same⟩ := bind_eq_ok.mp acted
      cases same
      exact .stay
  | field key =>
    rw [act] at acted
    split at acted
    next label fields is_object =>
      obtain ⟨-, rfl⟩ := moveTo_eq_ok.mp acted
      rw [← is_object]
      exact turn_partOf fun scheme found => Scheme.exists_child?_of_get found
    next => cases acted
  | element =>
    rw [act] at acted
    split at acted
    next label path element content elements is_list =>
      obtain ⟨-, rfl⟩ := moveTo_eq_ok.mp acted
      refine turn_partOf fun scheme is_element => ⟨.element, ?_⟩
      rw [is_list]
      exact is_element
    next => cases acted
  | item index =>
    rw [act] at acted
    split at acted
    next label path element content elements is_list =>
      simp only [bind_eq_ok, applicable_eq_ok, moveTo_eq_ok] at acted
      obtain ⟨scheme, found, -, rfl⟩ := acted
      -- A position that counts from the end is none.
      rw [itemAt] at found
      split at found
      · cases found
      · refine .edit (.part (.copy index.toNat) ?_)
        rw [is_list]
        exact found
    next => cases acted
  | pick => cases picks_not

theorem exists_of_addField {scheme added : Scheme} {field : Field Scheme}
    (done : addField scheme field = some added) :
    ∃ label fields, scheme = .object label fields ∧ added = .object label (fields ++ [field]) := by
  cases scheme with
  | object label fields => exact ⟨label, fields, rfl, (Option.some_inj.mp done).symm⟩
  | _ => cases done

theorem adds_of_addField {key : Text} {picked : Scheme} (is_picked : picked.Picked)
    (acted : (do
      let scheme ← applicable (addField s.document.scheme ⟨key, some picked⟩)
      s.moveTo limits (s.document.withScheme scheme)) = .ok (answer, next)) :
    s.document.AddsPicked next.document := by
  simp only [bind_eq_ok, applicable_eq_ok, moveTo_eq_ok] at acted
  obtain ⟨added, done, -, rfl⟩ := acted
  obtain ⟨label, fields, is_object, rfl⟩ := exists_of_addField done
  exact ⟨label, fields, key, picked, is_object, is_picked, rfl⟩

theorem adds_of_pick {key selector : Text} {index : Int} {reading : Reading} {list : Option Text}
    (acted : s.act limits (.pick key selector index reading list) = .ok (answer, next)) :
    s.document.AddsPicked next.document := by
  rw [act, bind_eq_ok] at acted
  obtain ⟨path, -, acted⟩ := acted
  cases list with
  | none => exact adds_of_addField (.element path reading) acted
  | some container =>
    obtain ⟨place, -, acted⟩ := bind_eq_ok.mp acted
    exact adds_of_addField (.item place path reading) acted

/-- There is nothing to be done with a part that is absent. -/
theorem act_ne_ok_of_absent (is_absent : s.document = .absent) :
    s.act limits action ≠ .ok (answer, next) := by
  intro acted
  cases action with
  | rebase | rebaseOnto =>
    obtain ⟨scheme, done, -⟩ := revise_eq_ok.mp acted
    rw [is_absent] at done
    cases done
  | populate =>
    rw [act, revise_eq_ok, is_absent] at acted
    obtain ⟨scheme, done, -⟩ := acted
    cases done
  | extract =>
    obtain ⟨content, ran, -⟩ := bind_eq_ok.mp acted
    rw [orFail_eq_ok, is_absent, PageScheme.extract, bind_eq_ok] at ran
    obtain ⟨page, -, ran⟩ := ran
    cases ran
  | reload =>
    -- It can be written, but null is no document.
    simp only [act, bind_eq_ok, orFail_eq_ok, moveTo_eq_ok, is_absent] at acted
    obtain ⟨value, written, document, loaded, -⟩ := acted
    obtain ⟨-, rfl⟩ := Document.write_eq_ok.mp written
    cases loaded
  | sources | field | element | item =>
    rw [act, is_absent] at acted
    cases acted
  | pick =>
    obtain ⟨label, fields, -, -, is_object, -⟩ := adds_of_pick acted
    rw [is_absent] at is_object
    cases is_object

/-! ### All actions -/

/-- What has become of a session after some actions. -/
def after (limits : Limits) (s : Session) : List Action → Session
  | [] => s
  | action :: rest =>
    match s.act limits action with
    | .ok (_, next) => next.after limits rest
    | .error _ => s.after limits rest

/-- What comes after some actions is answered by what has become of the session. -/
theorem run_append (first rest : List Action) :
    s.run limits (first ++ rest) =
      s.run limits first ++ (s.after limits first).run limits rest := by
  induction first generalizing s with
  | nil => rfl
  | cons action first ih =>
    rw [List.cons_append, run, run, after]
    cases s.act limits action with
    | error failure => exact congrArg (_ :: ·) ih
    | ok outcome => exact congrArg (_ :: ·) ih

/-- What is kept by every action that succeeds holds after all of them. -/
theorem holds_after (holds : Session → Prop) {actions : List Action}
    (kept : ∀ action ∈ actions, ∀ s answer next, s.act limits action = .ok (answer, next) →
      holds s → holds next)
    (begins : holds s) : holds (s.after limits actions) := by
  induction actions generalizing s with
  | nil => exact begins
  | cons action rest ih =>
    obtain ⟨first_keeps, rest_keep⟩ := List.forall_mem_cons.mp kept
    rw [after]
    cases acted : s.act limits action with
    -- What fails leaves the session as it was.
    | error failure => exact ih rest_keep begins
    | ok outcome =>
      obtain ⟨answer, next⟩ := outcome
      exact ih rest_keep (first_keeps s answer next acted begins)

/-- As long as nothing is picked, a session stands at a document that edits lead to, or at an absent
part. -/
theorem edited_or_absent_after {actions : List Action}
    (pick_none : ∀ action ∈ actions, action.picks = false) :
    Relation.ReflTransGen (Document.Edit limits) s.document (s.after limits actions).document ∨
      (s.after limits actions).document = .absent := by
  refine holds_after (fun now =>
    Relation.ReflTransGen (Document.Edit limits) s.document now.document ∨ now.document = .absent)
    ?_ (.inl .refl)
  rintro action listed now answer next acted (edits | is_absent)
  · exact (turn_of_act acted (pick_none action listed)).edited_or_absent edits
  · exact absurd acted (act_ne_ok_of_absent is_absent)

/-- Whatever is picked, a session stands at a document like those that are loaded, or at an absent
part. There must be room for a list of strings in an object. -/
theorem admissible_or_absent_after (actions : List Action) (enough : 3 ≤ limits.nodes)
    (admissible : s.document.scheme.Admissible limits.nodes) :
    (s.after limits actions).document.scheme.Admissible limits.nodes ∨
      (s.after limits actions).document = .absent := by
  refine holds_after (fun now =>
    now.document.scheme.Admissible limits.nodes ∨ now.document = .absent) ?_ (.inl admissible)
  rintro action - now answer next acted (admissible_so_far | is_absent)
  · cases picks : action.picks with
    | false => exact (turn_of_act acted picks).admissible_or_absent admissible_so_far
    | true =>
      cases action with
      | pick => exact .inl ((adds_of_pick acted).admissible enough admissible_so_far)
      | _ => cases picks
  · exact absurd acted (act_ne_ok_of_absent is_absent)

/-- A document that can be loaded is written and loaded again as it was. -/
theorem act_reload (admissible : s.document.scheme.Admissible limits.nodes)
    (each_finite : s.document.scheme.EveryContent Json.IsFinite)
    (written : s.document.write limits = .ok answer) :
    s.act limits .reload = .ok (answer, s) := by
  obtain ⟨-, rfl⟩ := Document.write_eq_ok.mp written
  have loaded := Document.load_toJson admissible
  rw [Scheme.finite_eq_self each_finite, Document.withScheme_scheme] at loaded
  simp only [act, bind_eq_ok, orFail_eq_ok, moveTo_eq_ok]
  exact ⟨_, written, _, loaded, written, rfl⟩

/-- To write and load what a session stands at changes nothing, whatever has been done before. -/
theorem reload_after {written : Written} {actions : List Action} (enough : 3 ≤ limits.nodes)
    (loaded : Document.load limits written = .ok s.document)
    (each_finite : (s.after limits actions).document.scheme.EveryContent Json.IsFinite)
    (reloaded : (s.after limits actions).act limits .reload = .ok (answer, next)) :
    next = s.after limits actions := by
  rcases admissible_or_absent_after actions enough (Document.admissible_of_load loaded) with
    admissible | is_absent
  · have acted := reloaded
    simp only [act, bind_eq_ok, orFail_eq_ok] at acted
    obtain ⟨value, is_written, -⟩ := acted
    rw [act_reload admissible each_finite is_written] at reloaded
    cases reloaded
    rfl
  · exact absurd reloaded (act_ne_ok_of_absent is_absent)

end Session
end PageScheme
