import PageScheme.Proofs.Json.ByteReading

/-!
# What the reader of bytes takes

The reader of bytes sees the same values as the reader of letters, but has other limits: containers
nest at most `depthLimit` deep, not counting empty ones, no number has more than `digitLimit` whole
digits, and no string holds a lone surrogate. It decides these limits (`Writing.decides_readBytes`):
within them it gives the value of a writing, and beyond them it fails. Each container is opened with
room for the others in it, so that the induction is on what is written, for whatever room there is.
-/
namespace PageScheme.Json

open ByteReader

/-- A part of a text is within the limits, where `room` containers may be opened. -/
structure Extent.Fits (room : Nat) (extent : Extent) : Prop where
  depth_le : extent.depth ≤ room
  digits_le : ∀ decimal ∈ extent.decimals, decimal.whole.values.length ≤ digitLimit
  well_formed : ∀ glyphs ∈ extent.strings, (lettersOf glyphs).isWellFormed = true

theorem Extent.fits_beside {room : Nat} {first second : Extent} :
    (first.beside second).Fits room ↔ first.Fits room ∧ second.Fits room := by
  constructor
  · rintro ⟨depth_le, digits_le, well_formed⟩
    simp only [beside, List.forall_mem_append, Nat.max_le] at depth_le digits_le well_formed
    exact ⟨⟨depth_le.1, digits_le.1, well_formed.1⟩, ⟨depth_le.2, digits_le.2, well_formed.2⟩⟩
  · rintro ⟨first, second⟩
    refine ⟨?_, ?_, ?_⟩
    · exact Nat.max_le.mpr ⟨first.depth_le, second.depth_le⟩
    · exact List.forall_mem_append.mpr ⟨first.digits_le, second.digits_le⟩
    · exact List.forall_mem_append.mpr ⟨first.well_formed, second.well_formed⟩

theorem Extent.fits_empty {room opened : Nat} : Extent.Fits room { opened } :=
  ⟨Nat.zero_le room, nofun, nofun⟩

theorem Extent.fits_decimal {room : Nat} {decimal : Decimal} :
    Extent.Fits room { decimals := [decimal] } ↔ decimal.whole.values.length ≤ digitLimit :=
  ⟨fun fits => fits.digits_le decimal List.mem_cons_self, fun short =>
    ⟨Nat.zero_le _, by simpa, nofun⟩⟩

theorem Extent.fits_string {room : Nat} {glyphs : List Glyph} :
    Extent.Fits room { strings := [glyphs] } ↔ (lettersOf glyphs).isWellFormed = true :=
  ⟨fun fits => fits.well_formed glyphs List.mem_cons_self,
    fun well_formed => ⟨Nat.zero_le _, nofun, by simpa⟩⟩

theorem Extent.not_fits_inside {extent : Extent} : ¬ extent.inside.Fits 0 := by
  rintro ⟨depth_le, -, -⟩
  simp [inside] at depth_le

theorem Extent.fits_inside {room : Nat} {extent : Extent} :
    extent.inside.Fits (room + 1) ↔ extent.Fits room := by
  constructor
  · rintro ⟨depth_le, digits_le, well_formed⟩
    exact ⟨Nat.le_of_succ_le_succ depth_le, digits_le, well_formed⟩
  · rintro ⟨depth_le, digits_le, well_formed⟩
    exact ⟨Nat.succ_le_succ depth_le, digits_le, well_formed⟩

theorem Key.fits_extent {room : Nat} {key : Key} :
    key.extent.Fits room ↔ (lettersOf key.glyphs).isWellFormed = true := Extent.fits_string

/-! ### Values -/

section Values
variable {rest : Text} {fuel room : Nat}

namespace ByteReader

theorem skipSpace_blankText (blanks : List Blank) :
    skipSpace (Text.bytes (blankText blanks ++ rest)) = skipSpace (Text.bytes rest) := by
  rw [skipSpace_bytes, TextReader.skipSpace_blankText, skipSpace_bytes]

section Marks
variable (blanks : List Blank)

theorem skipSpace_closing_bracket :
    skipSpace (Text.bytes (blankText blanks ++ .scalar ']' :: rest)) = 0x5D :: Text.bytes rest :=
  skipSpace_blankText blanks

theorem skipSpace_closing_brace :
    skipSpace (Text.bytes (blankText blanks ++ .scalar '\x7d' :: rest)) = 0x7D :: Text.bytes rest :=
  skipSpace_blankText blanks

theorem skipSpace_comma :
    skipSpace (Text.bytes (blankText blanks ++ .scalar ',' :: rest)) = 0x2C :: Text.bytes rest :=
  skipSpace_blankText blanks

theorem skipSpace_colon :
    skipSpace (Text.bytes (blankText blanks ++ .scalar ':' :: rest)) = 0x3A :: Text.bytes rest :=
  skipSpace_blankText blanks

end Marks

theorem skipSpace_begins {t : Text} {first : Letter} (begins : Begins t first) :
    skipSpace (Text.bytes t) = Text.bytes t := by
  rw [skipSpace_bytes, begins.skipSpace]

theorem decides_readString (start : Nat) (glyphs : List Glyph) :
    Decides ((lettersOf glyphs).isWellFormed = true)
      ((lettersOf glyphs).withoutLone, Text.bytes rest)
      (readString start [] (Text.bytes (glyphText glyphs ++ rest))) :=
  decides_glyphText glyphs start []

theorem decides_readValue_string (glyphs : List Glyph) :
    Decides ((lettersOf glyphs).isWellFormed = true) (.string (lettersOf glyphs), Text.bytes rest)
      (readValue (fuel + 1) room (Text.bytes (Spelling.text (.string glyphs) ++ rest))) := by
  show Decides _ _ (readValue (fuel + 1) room (0x22 :: Text.bytes (glyphText glyphs ++ rest)))
  rw [readValue]
  apply (decides_readString _ glyphs).bind_ok
  intro well_formed
  show Except.ok (string (Text.ofString (lettersOf glyphs).withoutLone), Text.bytes rest) = _
  rw [Text.ofString_withoutLone well_formed]

theorem readValue_null :
    readValue (fuel + 1) room (Text.bytes (Spelling.text .null ++ rest)) =
      .ok (.null, Text.bytes rest) := rfl

theorem readValue_bool (value : Bool) :
    readValue (fuel + 1) room (Text.bytes (Spelling.text (.bool value) ++ rest)) =
      .ok (.bool value, Text.bytes rest) := by
  cases value <;> rfl

theorem readValue_emptyArray (inside : List Blank) :
    readValue (fuel + 1) room
      (Text.bytes (.scalar '[' :: (blankText inside ++ .scalar ']' :: rest))) =
      .ok (.array [], Text.bytes rest) := by
  show readValue (fuel + 1) room (0x5B :: Text.bytes (blankText inside ++ .scalar ']' :: rest)) = _
  rw [readValue, skipSpace_closing_bracket]
  rfl

theorem readValue_emptyObject (inside : List Blank) :
    readValue (fuel + 1) room
        (Text.bytes (.scalar '\x7b' :: (blankText inside ++ .scalar '\x7d' :: rest))) =
      .ok (.object [], Text.bytes rest) := by
  show readValue (fuel + 1) room
    (0x7B :: Text.bytes (blankText inside ++ .scalar '\x7d' :: rest)) = _
  rw [readValue, skipSpace_closing_brace]
  rfl

section Containers
variable {t : Text} {first : Letter} (before : List Blank)

theorem bytes_ne_nil (begins : Begins t first) : Text.bytes t ≠ [] := by
  obtain ⟨others, rfl⟩ := List.head?_eq_some_iff.mp begins.head
  obtain ⟨lead, behind, same, -⟩ := exists_lead first
  simp [same]

theorem decides_readValue_array {extent : Extent} {result : Json × List UInt8}
    (begins : Begins t first)
    (decides : ∀ room, Decides (extent.Fits room) result (readItems fuel room [] (Text.bytes t))) :
    Decides (extent.inside.Fits room) result
      (readValue (fuel + 1) room (Text.bytes (.scalar '[' :: (blankText before ++ t)))) := by
  show Decides _ _ (readValue (fuel + 1) room (0x5B :: Text.bytes (blankText before ++ t)))
  rw [readValue, skipSpace_blankText, skipSpace_begins begins]
  split
  next ended => exact absurd ended (bytes_ne_nil begins)
  next after closed =>
    exact absurd closed (bytes_ne_cons (c := ']') (by decide) begins.ne_bracket after)
  next =>
    cases room with
    | zero => exact Extent.not_fits_inside
    | succ room => exact (decides room).congr Extent.fits_inside.symm

theorem readValue_object (begins : Begins t first) :
    readValue (fuel + 1) room (Text.bytes (.scalar '\x7b' :: (blankText before ++ t))) =
      readMembers fuel room [] (Text.bytes t) := by
  show readValue (fuel + 1) room (0x7B :: Text.bytes (blankText before ++ t)) = _
  rw [readValue, skipSpace_blankText, skipSpace_begins begins]
  split
  next ended => exact absurd ended (bytes_ne_nil begins)
  next after closed =>
    exact absurd closed (bytes_ne_cons (c := '\x7d') (by decide) begins.ne_brace after)
  next => rfl

variable {condition others : Prop} {result : Json × List UInt8} (after : List Blank)

theorem decides_readItems_last {item : Json} {done : List Json}
    (decides : Decides condition (item, Text.bytes (blankText after ++ .scalar ']' :: rest))
      (readValue fuel room (Text.bytes t))) :
    Decides condition (.array (done.reverse ++ [item]), Text.bytes rest)
      (readItems (fuel + 1) room done (Text.bytes t)) := by
  rw [readItems]
  apply decides.bind_ok
  intro _
  simp only [skipSpace_closing_bracket, List.reverse_cons]

theorem decides_readItems_more {item : Json} {done : List Json} (begins : Begins rest first)
    (decides : Decides condition
      (item, Text.bytes (blankText after ++ .scalar ',' :: (blankText before ++ rest)))
      (readValue fuel room (Text.bytes t)))
    (decides_others :
      Decides others result (readItems fuel room (item :: done) (Text.bytes rest))) :
    Decides (condition ∧ others) result (readItems (fuel + 1) room done (Text.bytes t)) := by
  rw [readItems]
  apply decides.bind
  intro _
  simp only [skipSpace_comma]
  rw [skipSpace_blankText, skipSpace_begins begins]
  split
  next after closed =>
    exact absurd closed (bytes_ne_cons (c := ']') (by decide) begins.ne_bracket after)
  next => exact decides_others

theorem bytes_key (key : Key) (t : Text) : Text.bytes (key.text ++ t) =
    0x22 :: Text.bytes (glyphText key.glyphs ++
      (blankText key.before ++ .scalar ':' :: (blankText key.after ++ t))) := by
  simp only [Key.text, List.cons_append, List.append_assoc]
  rfl

/-- No member is read without room for its value. -/
theorem decides_readMembers_full {key : Key} {value : Json × List UInt8}
    {done : List (Text × Json)} :
    Decides False value (readMembers (fuel + 1) 0 done (Text.bytes (key.text ++ t))) := by
  rw [bytes_key, readMembers]
  suffices refused : Decides ((lettersOf key.glyphs).isWellFormed = true ∧ False) value _ from
    refused.congr (by simp)
  apply (decides_readString _ key.glyphs).bind
  intro _
  simp only [skipSpace_colon]
  exact id

theorem decides_readMembers_last {key : Key} {value : Json} {done : List (Text × Json)}
    (begins : Begins t first)
    (decides : Decides condition (value, Text.bytes (blankText after ++ .scalar '\x7d' :: rest))
      (readValue fuel room (Text.bytes t))) :
    Decides ((lettersOf key.glyphs).isWellFormed = true ∧ condition)
      (.object (put (lettersOf key.glyphs) value done), Text.bytes rest)
      (readMembers (fuel + 1) (room + 1) done (Text.bytes (key.text ++ t))) := by
  rw [bytes_key, readMembers]
  apply (decides_readString _ key.glyphs).bind
  intro well_formed
  simp only [skipSpace_colon]
  rw [skipSpace_blankText, skipSpace_begins begins]
  apply decides.bind_ok
  intro _
  simp only [skipSpace_closing_brace, Text.ofString_withoutLone well_formed]

theorem decides_readMembers_more {key : Key} {value : Json} {done : List (Text × Json)}
    {other : Letter} (begins : Begins t first) (begins_others : Begins rest other)
    (decides : Decides condition
      (value, Text.bytes (blankText after ++ .scalar ',' :: (blankText before ++ rest)))
      (readValue fuel room (Text.bytes t)))
    (decides_others : Decides others result
      (readMembers fuel (room + 1) (put (lettersOf key.glyphs) value done) (Text.bytes rest))) :
    Decides ((lettersOf key.glyphs).isWellFormed = true ∧ condition ∧ others) result
      (readMembers (fuel + 1) (room + 1) done (Text.bytes (key.text ++ t))) := by
  rw [bytes_key, readMembers]
  apply (decides_readString _ key.glyphs).bind
  intro well_formed
  simp only [skipSpace_colon]
  rw [skipSpace_blankText, skipSpace_begins begins]
  apply decides.bind
  intro _
  simp only [skipSpace_comma, Text.ofString_withoutLone well_formed]
  rw [skipSpace_blankText, skipSpace_begins begins_others]
  split
  next after closed =>
    exact absurd closed (bytes_ne_cons (c := '\x7d') (by decide) begins_others.ne_brace after)
  next => exact decides_others

end Containers

end ByteReader

end Values

-- By structure, with fuel for the length of what is written: each piece is shorter than what holds
-- it.

mutual

/-- The reading of a value decides whether the value is within the limits. -/
theorem Spelling.decides_readValue (spelling : Spelling) {fuel room : Nat} {rest : Text}
    (follows : FollowsValue rest) (enough : spelling.text.length ≤ fuel) :
    Decides (spelling.extent.Fits room) (spelling.value, Text.bytes rest)
      (ByteReader.readValue fuel room (Text.bytes (spelling.text ++ rest))) := by
  have some_fuel : fuel ≠ 0 := by have := spelling.length_text_pos; omega
  obtain ⟨fuel, rfl⟩ := Nat.exists_eq_succ_of_ne_zero some_fuel
  match spelling with
  | .null => exact .ok Extent.fits_empty
  | .bool value =>
    rw [readValue_bool]
    exact .ok Extent.fits_empty
  | .number decimal =>
    exact (decides_readValue_number decimal follows fuel room).congr Extent.fits_decimal.symm
  | .string glyphs => exact (decides_readValue_string glyphs).congr Extent.fits_string.symm
  | .emptyArray inside =>
    rw [Spelling.text, List.cons_append, List.append_assoc, List.singleton_append,
      readValue_emptyArray]
    exact .ok Extent.fits_empty
  | .emptyObject inside =>
    rw [Spelling.text, List.cons_append, List.append_assoc, List.singleton_append,
      readValue_emptyObject]
    exact .ok Extent.fits_empty
  | .array before items =>
    simp only [Spelling.text, List.length_cons, List.length_append] at enough
    obtain ⟨first, begins⟩ := items.begins
    rw [Spelling.text, List.cons_append, List.append_assoc, List.append_assoc,
      List.singleton_append]
    exact decides_readValue_array before (begins.append _) fun _ =>
      items.decides_readItems (by omega)
  | .object before members =>
    simp only [Spelling.text, List.length_cons, List.length_append] at enough
    obtain ⟨first, begins⟩ := members.begins
    rw [Spelling.text, List.cons_append, List.append_assoc, List.append_assoc,
      List.singleton_append, readValue_object before (begins.append _)]
    exact members.decides_readMembers (by omega)

theorem Items.decides_readItems (items : Items) {fuel room : Nat} {done : List Json} {rest : Text}
    (enough : items.text.length < fuel) :
    Decides (items.extent.Fits room) (.array (done.reverse ++ items.values), Text.bytes rest)
      (ByteReader.readItems fuel room done (Text.bytes (items.text ++ .scalar ']' :: rest))) := by
  obtain ⟨fuel, rfl⟩ := Nat.exists_eq_succ_of_ne_zero (Nat.ne_zero_of_lt enough)
  match items with
  | .last item after =>
    simp only [Items.text, List.length_append] at enough
    have follows : FollowsValue (.scalar ']' :: rest) := .cons (by decide)
    rw [Items.text, List.append_assoc]
    exact decides_readItems_last after
      (item.decides_readValue (follows.blankText_append after) (by omega))
  | .more item after before others =>
    simp only [Items.text, List.length_append, List.length_cons] at enough
    obtain ⟨first, begins⟩ := others.begins
    have follows : FollowsValue
        (.scalar ',' :: (blankText before ++ (others.text ++ .scalar ']' :: rest))) :=
      .cons (by decide)
    have decides_others : Decides (others.extent.Fits room)
        (.array (done.reverse ++ Items.values (.more item after before others)), Text.bytes rest)
        (ByteReader.readItems fuel room (item.value :: done)
          (Text.bytes (others.text ++ .scalar ']' :: rest))) := by
      rw [Items.values, ← List.singleton_append, ← List.append_assoc, ← List.reverse_cons]
      exact others.decides_readItems (by omega)
    rw [Items.text, List.append_assoc, List.append_assoc, List.cons_append, List.append_assoc]
    exact (decides_readItems_more before after (begins.append _)
      (item.decides_readValue (follows.blankText_append after) (by omega)) decides_others).congr
        Extent.fits_beside.symm

theorem Members.decides_readMembers (members : Members) {fuel room : Nat}
    {done : List (Text × Json)} {rest : Text} (enough : members.text.length < fuel) :
    Decides (members.extent.inside.Fits room)
      (.object (members.entries.foldl (fun done (key, value) => put key value done) done),
        Text.bytes rest)
      (ByteReader.readMembers fuel room done
        (Text.bytes (members.text ++ .scalar '\x7d' :: rest))) := by
  obtain ⟨fuel, rfl⟩ := Nat.exists_eq_succ_of_ne_zero (Nat.ne_zero_of_lt enough)
  match members with
  | .last key value after =>
    simp only [Members.text, List.length_append] at enough
    obtain ⟨first, begins⟩ := value.begins
    have follows : FollowsValue (.scalar '\x7d' :: rest) := .cons (by decide)
    rw [Members.text, List.append_assoc, List.append_assoc]
    -- An array takes up its room before its items are read, an object with each value.
    cases room with
    | zero => exact decides_readMembers_full.congr (by simp [Extent.not_fits_inside])
    | succ room =>
      refine (decides_readMembers_last after (begins.append _)
        (value.decides_readValue (follows.blankText_append after) (by omega))).congr ?_
      simp only [Members.extent, Extent.fits_inside, Extent.fits_beside, Key.fits_extent]
  | .more key value after before others =>
    simp only [Members.text, List.length_append, List.length_cons] at enough
    obtain ⟨first, begins⟩ := value.begins
    obtain ⟨other, begins_others⟩ := others.begins
    have follows : FollowsValue
        (.scalar ',' :: (blankText before ++ (others.text ++ .scalar '\x7d' :: rest))) :=
      .cons (by decide)
    rw [Members.text, List.append_assoc, List.append_assoc, List.append_assoc, List.cons_append,
      List.append_assoc]
    cases room with
    | zero => exact decides_readMembers_full.congr (by simp [Extent.not_fits_inside])
    | succ room =>
      refine (decides_readMembers_more before after (begins.append _) (begins_others.append _)
        (value.decides_readValue (follows.blankText_append after) (by omega))
        (others.decides_readMembers (by omega))).congr ?_
      simp only [Members.extent, Extent.fits_inside, Extent.fits_beside, Key.fits_extent, and_assoc]

end

/-! ### Texts -/

theorem length_le_bytes (t : Text) : t.length ≤ (Text.bytes t).length := by
  induction t with
  | nil => exact Nat.le_refl 0
  | cons letter t ih =>
    obtain ⟨lead, others, same, -⟩ := exists_lead letter
    simp only [Text.bytes_cons, same, List.length_cons, List.length_append]
    omega

/-- The reader of bytes takes a text exactly if it is within the limits. -/
theorem Writing.decides_readBytes (writing : Writing) :
    Decides (writing.spelling.extent.Fits depthLimit) writing.value
      (readBytes (Text.bytes writing.text)) := by
  obtain ⟨first, begins⟩ := writing.spelling.begins
  have start : skipSpace (Text.bytes writing.text) =
      Text.bytes (writing.spelling.text ++ blankText writing.after) := by
    rw [Writing.text, ByteReader.skipSpace_blankText, ByteReader.skipSpace_begins (begins.append _)]
  have skipped : skipSpace (Text.bytes (blankText writing.after)) = [] := by
    have no_more := @ByteReader.skipSpace_blankText [] writing.after
    rwa [List.append_nil] at no_more
  have follows : FollowsValue (blankText writing.after) := by
    have ends := FollowsValue.nil.blankText_append writing.after
    rwa [List.append_nil] at ends
  have enough : writing.spelling.text.length ≤ 2 * (Text.bytes writing.text).length + 2 := by
    have longer := length_le_bytes writing.text
    simp only [Writing.text, List.length_append] at longer ⊢
    omega
  rw [readBytes, start]
  apply (writing.spelling.decides_readValue follows enough).bind_ok
  intro _
  simp only [skipped]
  rfl

end PageScheme.Json
