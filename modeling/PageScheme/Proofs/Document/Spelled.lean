import PageScheme.Proofs.Document.Loading
import PageScheme.Proofs.Json.Limits
import PageScheme.Proofs.Json.Printed
import PageScheme.Proofs.Scheme.Judging

/-!
# JSON text and its value

A document in JSON text is loaded as the value of the text would be (`loads_as_value`). Schemes and
instructions come out the same, or are refused for the same errors at the same places; only some
errors are worded otherwise for text (`FormatError.inText`). This is so within the limits of the
reader of bytes, and text beyond them is refused with one error. A file that may hold either is
loaded as its value in every respect, for it is checked as a value once it has been read.
-/
namespace PageScheme

open Json (Writing Glyph Digits Decimal IsLiteral Spelling Members Key Extent lettersOf
  digitLimit)
open Json.ByteReader (depthLimit)

/-! ### Wording -/

/-- An error in JSON text, for an error in a value at hand: text knows objects and arrays only. -/
def FormatError.inText (e : FormatError) : FormatError :=
  if e.sort = some "list_type" ∨ e.sort = some "tuple_type" then
    { e with message := "Input should be a valid array" }
  else if e.sort = some "model_type" then { e with message := "Input should be an object" }
  else if e.sort = some "model_attributes_type" then
    { e with sort := some "dict_type", message := "Input should be an object" }
  else e

@[simp] theorem FormatError.place_inText (e : FormatError) : e.inText.place = e.place := by
  unfold inText
  split_ifs <;> rfl

theorem Problem.report_text (p : Problem) : p.report .text = (p.report .data).inText := by
  obtain ⟨place, cause⟩ := p
  cases cause <;> simp [report, FormatError.inText, Cause.sort, Cause.text, Cause.dataText]

/-- What is loaded from text, and what from a value at hand: either the same, or nothing for the
same errors. -/
inductive LoadAlike {α : Type} : Except Fault α → Except Fault α → Prop
  | loaded (a : α) : LoadAlike (.ok a) (.ok a)
  | refused (model : String) (errors : List FormatError) :
      LoadAlike (.error (.format model (errors.map FormatError.inText)))
        (.error (.format model errors))

/-- The same errors are so many errors at the same places, in the same order. -/
theorem LoadAlike.places {α : Type} {model other : String} {errors others : List FormatError}
    (alike : LoadAlike (.error (.format model errors) : Except Fault α)
      (.error (.format other others))) :
    model = other ∧ errors.map FormatError.place = others.map FormatError.place := by
  cases alike with
  | refused => simp

theorem loadAlike_orFault {α : Type} (model : String) (part : Checked α) :
    LoadAlike (part.orFault model .text) (part.orFault model .data) := by
  cases part with
  | ok a => exact .loaded a
  | error problems =>
    have same : problems.map (Problem.report .text) =
        (problems.map (Problem.report .data)).map FormatError.inText := by
      rw [List.map_map]
      exact List.map_congr_left fun p _ => p.report_text
    show LoadAlike (.error (.format model (problems.map (Problem.report .text)))) _
    rw [same]
    exact .refused model _

/-! ### Schemes and instructions -/

/-- The two forms in which a JSON text is given, its letters and its bytes. -/
inductive Json.Writing.GivenAs (writing : Writing) : Written → Prop
  | text : GivenAs writing (.text writing.text)
  | bytes : GivenAs writing (.bytes (Text.bytes writing.text))

theorem Written.ofJson_of_ne {value : Json} (no_text : ∀ t, value ≠ .string t) :
    Written.ofJson value = .value value := by
  cases value with
  | string t => exact absurd rfl (no_text t)
  | _ => rfl

section Load
variable {α : Type} {model : String} {check : Json → Checked α} {writing : Writing}
  {written : Written}

theorem load_of_fits (given : writing.GivenAs written)
    (fits : writing.spelling.extent.Fits depthLimit) :
    load model check written = (check writing.value).orFault model .text := by
  have of_bytes : loadBytes model check (Text.bytes writing.text) =
      (check writing.value).orFault model .text := by
    rw [loadBytes, writing.decides_readBytes.eq_ok fits]
  cases given with
  | bytes => exact of_bytes
  | text =>
    -- A text without lone surrogates is a string, which has the bytes of the text.
    have same := Text.ofString_withoutLone (writing.isWellFormed_text fits.well_formed)
    rw [load, Text.toString?_eq_some.mpr same.symm]
    show loadBytes model check (Utf8.encode writing.text.withoutLone) = _
    rwa [← Text.bytes_ofString, same]

theorem load_of_not_fits (given : writing.GivenAs written)
    (exceeds : ¬ writing.spelling.extent.Fits depthLimit) :
    ∃ sort message, load model check written = .error (.atRoot model sort message) := by
  have of_bytes : ∃ sort message, loadBytes model check (Text.bytes writing.text) =
      .error (.atRoot model sort message) := by
    obtain ⟨fault, failed⟩ := writing.decides_readBytes.exists_error exceeds
    rw [loadBytes, failed]
    exact ⟨_, _, rfl⟩
  cases given with
  | bytes => exact of_bytes
  | text =>
    -- A lone surrogate in the text, in a string beyond the limits or not, is one error as well.
    rw [load]
    split
    next s read =>
      rwa [Text.toString?_eq_some.mp read, Text.bytes_ofString] at of_bytes
    next => exact ⟨_, _, rfl⟩

theorem loadAlike_of_fits (given : writing.GivenAs written)
    (no_text : ∀ t, writing.value ≠ .string t)
    (fits : writing.spelling.extent.Fits depthLimit) :
    LoadAlike (load model check written) (load model check (.ofJson writing.value)) := by
  rw [load_of_fits given fits, Written.ofJson_of_ne no_text]
  exact loadAlike_orFault model (check writing.value)

end Load

/-! ### Files -/

namespace Document

/-- A value is an object that has a key. -/
def HasKey (key : String) (value : Json) : Prop :=
  ∃ members, value = .object members ∧ Text.ofString key ∈ members.map Prod.fst

theorem hasScheme_iff {value : Json} : hasScheme value = true ↔ HasKey "scheme" value := by
  cases value with
  | object members =>
    rw [hasScheme, Scheme.valueOf, Json.isSome_lookup]
    constructor
    · intro keyed
      exact ⟨members, rfl, keyed⟩
    · rintro ⟨others, same, keyed⟩
      cases same
      exact keyed
  | _ => simp [hasScheme, HasKey]

section File
variable {limits : Limits} {writing : Writing} {written : Written}

/-- A file is loaded as the value that the reader of letters makes of it. -/
theorem load_eq_loadReading (given : writing.GivenAs written) :
    load limits written =
      loadReading limits writing.text (Json.readDecoded limits.document writing.text) := by
  cases given with
  | text => rw [load, writing.readText_eq]
  | bytes => rw [load, writing.decode_text]

theorem load_of_hasKey (given : writing.GivenAs written)
    (legible : writing.spelling.extent.Legible limits.document) :
    (HasKey "scheme" writing.value → load limits written =
        (Instructions.load limits (.ofJson writing.value)).map .instructions) ∧
      (¬ HasKey "scheme" writing.value → load limits written =
        (Scheme.load limits (.ofJson writing.value)).map .bare) := by
  rw [load_eq_loadReading given, (writing.decides_readDecoded limits.document).eq_ok legible,
    loadReading, ← hasScheme_iff, loadValue]
  exact ⟨fun keyed => if_pos keyed, fun unkeyed => if_neg unkeyed⟩

theorem load_of_not_legible (given : writing.GivenAs written)
    (exceeds : ¬ writing.spelling.extent.Legible limits.document) :
    ∃ fault, load limits written = .error fault := by
  obtain ⟨misread, failed⟩ :=
    (writing.decides_readDecoded limits.document).exists_error exceeds
  rw [load_eq_loadReading given, failed]
  exact ⟨_, rfl⟩

end File

end Document

/-- Text loads as its value. For schemes and instructions the limits are those of the reader of
bytes: containers nest no deeper than `depthLimit`, no number has more whole digits than
`digitLimit`, and no string holds a lone surrogate. For files they are those of the reader of
letters: as many containers as there is room for, and no whole number with more digits than
`digitLimit`. -/
theorem loads_as_value {limits : Limits} {writing : Writing} {written : Written}
    (given : writing.GivenAs written) (no_text : ∀ t, writing.value ≠ .string t) :
    (writing.spelling.extent.Fits depthLimit →
        LoadAlike (Scheme.load limits written) (Scheme.load limits (.ofJson writing.value)) ∧
          LoadAlike (Instructions.load limits written)
            (Instructions.load limits (.ofJson writing.value))) ∧
      (¬ writing.spelling.extent.Fits depthLimit →
        (∃ sort message, Scheme.load limits written = .error (.atRoot "Scheme" sort message)) ∧
          ∃ sort message,
            Instructions.load limits written = .error (.atRoot "Instructions" sort message)) ∧
      (writing.spelling.extent.Legible limits.document →
        (Document.HasKey "scheme" writing.value → Document.load limits written =
            (Instructions.load limits (.ofJson writing.value)).map .instructions) ∧
          (¬ Document.HasKey "scheme" writing.value → Document.load limits written =
            (Scheme.load limits (.ofJson writing.value)).map .bare)) ∧
      (¬ writing.spelling.extent.Legible limits.document →
        ∃ fault, Document.load limits written = .error fault) := by
  refine ⟨?_, ?_, Document.load_of_hasKey given, Document.load_of_not_legible given⟩
  · intro fits
    exact ⟨loadAlike_of_fits given no_text fits, loadAlike_of_fits given no_text fits⟩
  · intro exceeds
    exact ⟨load_of_not_fits given exceeds, load_of_not_fits given exceeds⟩

/-! ### At the limits -/

instance (letter : Letter) : Decidable (IsLiteral letter) :=
  decidable_of_iff (0x20 ≤ letter.code ∧ letter ≠ .scalar '"' ∧ letter ≠ .scalar '\\')
    ⟨fun ⟨visible, not_mark, not_stroke⟩ => ⟨visible, not_mark, not_stroke⟩,
      fun ⟨visible, not_mark, not_stroke⟩ => ⟨visible, not_mark, not_stroke⟩⟩

/-- The characters of a string that can stand for themselves. -/
def plainGlyphs (s : String) : List Glyph :=
  s.toList.filterMap fun c =>
    if is_literal : IsLiteral (.scalar c) then some (.literal (.scalar c) is_literal) else none

def plainKey (s : String) : Key := ⟨plainGlyphs s, [], []⟩

/-- A string with some content. -/
def stringWith (content : Spelling) : Writing where
  before := []
  spelling := .object [] (.more (plainKey "type") (.string (plainGlyphs "STRING")) [] []
    (.last (plainKey "content") content []))
  after := []

section Content
variable (content : Spelling)

theorem lettersOf_stringWith : lettersOf (plainGlyphs "type") = Text.ofString "type" ∧
    lettersOf (plainGlyphs "STRING") = Text.ofString "STRING" ∧
      lettersOf (plainGlyphs "content") = Text.ofString "content" := by
  decide

theorem value_stringWith : (stringWith content).value =
    .object
      [(Text.ofString "type", .ofString "STRING"), (Text.ofString "content", content.value)] := by
  obtain ⟨type, kind, key⟩ := lettersOf_stringWith
  show Json.object (Json.putAll
    [(lettersOf (plainGlyphs "type"), .string (lettersOf (plainGlyphs "STRING"))),
      (lettersOf (plainGlyphs "content"), content.value)]) = _
  rw [type, kind, key]
  rfl

theorem stringWith_ne (t : Text) : (stringWith content).value ≠ .string t := by
  rw [value_stringWith]
  nofun

theorem not_hasKey_stringWith : ¬ Document.HasKey "scheme" (stringWith content).value := by
  have unkeyed : Document.hasScheme (stringWith content).value = false := by
    rw [value_stringWith]
    rfl
  rw [← Document.hasScheme_iff, unkeyed]
  exact Bool.false_ne_true

theorem load_stringWith : Scheme.load .usual (.ofJson (stringWith content).value) =
    .ok (.string {} none .innerHtml content.value) := by
  rw [value_stringWith]
  rfl

theorem fits_stringWith :
    (stringWith content).spelling.extent.Fits depthLimit ↔
      content.extent.Fits (depthLimit - 1) := by
  obtain ⟨type, kind, key⟩ := lettersOf_stringWith
  show (Extent.inside _).Fits (depthLimit - 1 + 1) ↔ _
  rw [Extent.fits_inside]
  simp [Members.extent, Extent.fits_beside, Key.fits_extent, Spelling.extent, Extent.fits_string,
    plainKey, type, kind, key, Text.isWellFormed_ofString]

theorem legible_stringWith {room : Nat} :
    (stringWith content).spelling.extent.Legible (room + 1) ↔ content.extent.Legible room := by
  show (Extent.inside _).Legible (room + 1) ↔ _
  rw [Extent.legible_inside]
  simp [Members.extent, Extent.legible_beside, Key.extent, Spelling.extent, Extent.legible_strings]

end Content

/-- Null within arrays, one in the other. -/
def nestedArrays : Nat → Spelling
  | 0 => .null
  | depth + 1 => .array [] (.last (nestedArrays depth) [])

theorem extent_nestedArrays (depth : Nat) :
    (nestedArrays depth).extent = { opened := depth, depth } := by
  induction depth with
  | zero => rfl
  | succ depth ih => rw [nestedArrays, Spelling.extent, Json.Items.extent, ih, Extent.inside]

theorem fits_nestedArrays {room depth : Nat} :
    (nestedArrays depth).extent.Fits room ↔ depth ≤ room := by
  rw [extent_nestedArrays]
  exact ⟨fun fits => fits.depth_le, fun less => ⟨less, nofun, nofun⟩⟩

theorem legible_nestedArrays {room depth : Nat} :
    (nestedArrays depth).extent.Legible room ↔ depth ≤ room := by
  rw [extent_nestedArrays]
  exact ⟨fun legible => legible.opened_le, fun less => ⟨less, nofun⟩⟩

theorem loads_as_value_at_limit :
    LoadAlike (Scheme.load .usual (.text (stringWith (nestedArrays 199)).text))
        (Scheme.load .usual (.ofJson (stringWith (nestedArrays 199)).value)) ∧
      (∃ sort message,
        Scheme.load .usual (.bytes (Text.bytes (stringWith (nestedArrays 200)).text)) =
          .error (.atRoot "Scheme" sort message)) ∧
      Document.load .usual (.text (stringWith (nestedArrays 200)).text) =
        (Scheme.load .usual (.ofJson (stringWith (nestedArrays 200)).value)).map .bare ∧
      ∃ fault,
        Document.load .usual (.text (stringWith (nestedArrays 2000)).text) = .error fault := by
  have fits : (stringWith (nestedArrays 199)).spelling.extent.Fits depthLimit := by
    rw [fits_stringWith, fits_nestedArrays]
    decide
  have exceeds : ¬ (stringWith (nestedArrays 200)).spelling.extent.Fits depthLimit := by
    rw [fits_stringWith, fits_nestedArrays]
    decide
  have legible : (stringWith (nestedArrays 200)).spelling.extent.Legible Limits.usual.document := by
    rw [Limits.usual, legible_stringWith, legible_nestedArrays]
    decide
  have illegible :
      ¬ (stringWith (nestedArrays 2000)).spelling.extent.Legible Limits.usual.document := by
    rw [Limits.usual, legible_stringWith, legible_nestedArrays]
    decide
  refine ⟨?_, ?_, ?_, ?_⟩
  · exact ((loads_as_value .text (stringWith_ne _)).1 fits).1
  · exact ((loads_as_value .bytes (stringWith_ne _)).2.1 exceeds).1
  · exact ((loads_as_value .text (stringWith_ne _)).2.2.1 legible).2 (not_hasKey_stringWith _)
  · exact (loads_as_value .text (stringWith_ne _)).2.2.2 illegible

/-- A whole number with one digit too many. -/
def longNumber : Decimal where
  negative := false
  whole := ⟨1, List.replicate digitLimit 0⟩
  fraction := none
  exponent := none
  zero_alone := by simp

theorem length_longNumber : longNumber.whole.values.length = digitLimit + 1 := by
  simp [longNumber, Digits.values, Digits.all]

theorem not_isShort_longNumber : ¬ longNumber.IsShort := by
  intro short
  have few : longNumber.whole.values.length ≤ digitLimit := short rfl
  rw [length_longNumber] at few
  omega

/-- With this content a string loads as a value, but not as text. -/
def LoadsAsValueOnly (content : Spelling) : Prop :=
  Scheme.load .usual (.ofJson (stringWith content).value) =
      .ok (.string {} none .innerHtml content.value) ∧
    ∃ sort message,
      Scheme.load .usual (.text (stringWith content).text) = .error (.atRoot "Scheme" sort message)

theorem loadsAsValueOnly_of_not_fits {content : Spelling}
    (exceeds : ¬ content.extent.Fits (depthLimit - 1)) : LoadsAsValueOnly content :=
  ⟨load_stringWith content, load_of_not_fits .text (by rwa [fits_stringWith])⟩

/-- With this content a string is no file that can be loaded. -/
def NoFile (content : Spelling) : Prop :=
  ∃ fault, Document.load .usual (.text (stringWith content).text) = .error fault

theorem noFile_of_not_legible {content : Spelling}
    (exceeds : ¬ content.extent.Legible (Limits.usual.document - 1)) : NoFile content :=
  Document.load_of_not_legible .text (by rwa [Limits.usual, legible_stringWith])

/-- Each limit of text is one that values do not have. -/
theorem values_load_but_not_their_texts :
    LoadsAsValueOnly (nestedArrays 200) ∧ LoadsAsValueOnly (.string [.unit (.printed 0xD800)]) ∧
      (LoadsAsValueOnly (.number longNumber) ∧ NoFile (.number longNumber)) ∧
        LoadsAsValueOnly (nestedArrays 2000) ∧ NoFile (nestedArrays 2000) := by
  have deep : ∀ depth, 200 ≤ depth → LoadsAsValueOnly (nestedArrays depth) := by
    intro depth enough
    apply loadsAsValueOnly_of_not_fits
    rw [fits_nestedArrays]
    have : depthLimit - 1 < 200 := by decide
    omega
  refine ⟨deep 200 (by decide), ?_, ⟨?_, ?_⟩, deep 2000 (by decide), ?_⟩
  · apply loadsAsValueOnly_of_not_fits
    rw [Spelling.extent, Extent.fits_string]
    decide
  · apply loadsAsValueOnly_of_not_fits
    rw [Spelling.extent, Extent.fits_decimal]
    simp [length_longNumber]
  · apply noFile_of_not_legible
    rw [Spelling.extent, Extent.legible_decimal]
    exact not_isShort_longNumber
  · apply noFile_of_not_legible
    rw [legible_nestedArrays]
    decide

end PageScheme
