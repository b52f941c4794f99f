import PageScheme.Proofs.Command.Lines
import PageScheme.Proofs.Document.Editing
import PageScheme.Proofs.Extraction.Portable

/-!
# Two ways to a populated document

A document is populated from a page either at once, or in two steps: its scheme is run on the page,
and what that outputs is kept in a file, from which the document is populated.

Main result: both ways end alike. What a scheme reads is portable and goes no deeper than the
scheme, so that the file holds the very value that was output, and from there on both do the same.

They need not end well. A key of the scheme is a key of what it reads, and a populated document with
a key that has a lone surrogate cannot be output, while the value by itself can. Neither can a
document that goes too deep with the content that it keeps.
-/
namespace PageScheme.Command

variable {limits : Limits}

/-! ### Files -/

theorem loadDocument_eq {bytes : List UInt8} {document : Document}
    (loaded : Document.load limits (.bytes bytes) = .ok document) (name : String) :
    loadDocument limits ⟨name, bytes⟩ = .ok document := by
  rw [loadDocument, loaded]
  rfl

/-- A portable value is the content of a file to which it was output, if there is room for it. -/
theorem loadContent_printed {value : Json} (portable : value.IsPortable)
    (fits : value.depth ≤ limits.content) (name : String) :
    loadContent limits ⟨name, Utf8.encode (value.indented ++ "\n")⟩ = .ok value := by
  obtain ⟨text, decoded, read⟩ := portable.read_printed fits
  simp only [loadContent, decoded, read]
  rfl

/-! ### Endings -/

/-- A fault that is explained or left unexplained is no output. -/
theorem status_explained (fault : Fault) (notes : List Note) :
    (Outcome.mk notes (explained fault)).status ≠ 0 := by
  rw [explained]
  split <;> nofun

/-- A document with a valid scheme is output unless a key in its content is unfit for it, or there
is no room for its levels. -/
theorem status_of_printedWith {document : Document} {filled : Scheme} {outcome : Outcome}
    (valid : filled.Valid) (ending : outcome.ending = printedWith limits document (.ok filled)) :
    outcome.status = 0 ↔
      filled.EveryContent Json.KeysWellFormed ∧ filled.LevelsWithin limits.values := by
  have same := document.scheme_withScheme filled
  have still_valid : (document.withScheme filled).scheme.Valid := by rwa [same]
  have fit := @Document.written_iff limits _ still_valid
  rw [same] at fit
  rw [← fit, Outcome.status, ending, printedWith]
  cases (document.withScheme filled).write limits with
  | ok value => simp [printed]
  | error fault => simp

/-! ### Runs on files -/

section Files
variable {verbose : Bool} {url : Option Text} {scheme page content : List UInt8} {s p f : String}
  {document : Document} {value : Json}

/-- The scheme in a file is loaded, and reads a value of the page in another one. -/
structure Reads (limits : Limits) (url : Option Text) (scheme page : List UInt8)
    (document : Document) (value : Json) : Prop where
  loaded : Document.load limits (.bytes scheme) = .ok document
  found : ∃ contents, Page.read (.bytes page) = .ok contents ∧
    Extraction.one ((url <|> document.url?).getD []) document.scheme contents.rootPlace = .ok value

theorem exists_reads (loaded : Document.load limits (.bytes scheme) = .ok document)
    (done : (runExtract limits verbose url false ⟨s, scheme⟩ ⟨p, page⟩).status = 0) :
    ∃ value, Reads limits url scheme page document value := by
  simp only [runExtract, loadDocument_eq loaded, orEnd, extracted] at done
  cases read : Page.read (.bytes page) with
  | error fault =>
    simp only [read] at done
    exact absurd done (status_explained fault _)
  | ok contents =>
    simp only [read] at done
    split at done
    next fault _ => exact absurd done (status_explained fault _)
    next value ran => exact ⟨value, loaded, contents, read, ran⟩

namespace Reads

theorem ending_extract (reads : Reads limits url scheme page document value) (inScheme : Bool) :
    (runExtract limits verbose url inScheme ⟨s, scheme⟩ ⟨p, page⟩).ending =
      if inScheme then printedWith limits document (document.scheme.populate .representative value)
      else printed value := by
  obtain ⟨loaded, contents, read, ran⟩ := reads
  simp only [runExtract, loadDocument_eq loaded, orEnd, extracted, read, ran]
  cases inScheme <;> rfl

theorem output_extract (reads : Reads limits url scheme page document value) :
    (runExtract limits verbose url false ⟨s, scheme⟩ ⟨p, page⟩).output =
      value.indented ++ "\n" := by
  rw [Outcome.output, reads.ending_extract]
  rfl

variable (joined : document.scheme.HasJoinedKeys)
  (saved : content = Utf8.encode (runExtract limits verbose url false ⟨s, scheme⟩ ⟨p, page⟩).output)
include joined saved

theorem ending_populate (reads : Reads limits url scheme page document value) :
    (runPopulate limits verbose .representative ⟨s, scheme⟩ ⟨f, content⟩).ending =
      printedWith limits document (document.scheme.populate .representative value) := by
  obtain ⟨contents, -, ran⟩ := reads.found
  have shaped := Extraction.shaped_of_one ran
  -- There is room for as many containers in content as for nodes in a scheme.
  have fits : value.depth ≤ limits.content :=
    (shaped.depth_le (Document.admissible_of_load reads.loaded).within).trans
      limits.nodes_le_content
  rw [saved, reads.output_extract, runPopulate, loadDocument_eq reads.loaded, orEnd,
    loadContent_printed (shaped.isPortable joined) fits]
  rfl

/-- What is populated from the file is output unless a key that it is populated with is unfit, or it
goes too deep. -/
theorem status_populate (reads : Reads limits url scheme page document value) :
    (runPopulate limits verbose .representative ⟨s, scheme⟩ ⟨f, content⟩).status = 0 ↔
      (document.scheme.populated .representative value).EveryContent Json.KeysWellFormed ∧
        (document.scheme.populated .representative value).LevelsWithin limits.values := by
  have valid := Document.valid_of_load reads.loaded
  apply status_of_printedWith (valid.populated .representative value)
  rw [reads.ending_populate joined saved, valid.populate_eq]

end Reads
end Files

/-! ### Command lines -/

/-- A document that is populated from what a run has output, kept in a file, ends up like the one
that the run populates itself, with the same status and output. It is output unless a key in its
content is unfit for it, or there is no room for its levels. -/
theorem populate_from_output {folder later : Folder} {url : Option String} {options : List String}
    {s p f : String} {bytes : List UInt8} {document : Document} (option : UrlOption url options)
    (s_plain : isOption s = false) (p_plain : isOption p = false) (f_plain : isOption f = false)
    (given : folder.entry? s = some (.file bytes))
    (loaded : Document.load limits (.bytes bytes) = .ok document)
    (joined : document.scheme.HasJoinedKeys)
    (done : (run limits folder ("extract" :: options ++ [s, p])).status = 0)
    (kept : later.entry? s = some (.file bytes))
    (saved : later.entry? f =
      some (.file (Utf8.encode (run limits folder ("extract" :: options ++ [s, p])).output))) :
    (run limits later ["interlace", s, f]).ending =
        (run limits folder ("extract" :: options ++ [s, p, "--interlace"])).ending ∧
      ∃ value filled,
        (run limits folder ("extract" :: options ++ [s, p])).output = value.indented ++ "\n" ∧
        document.scheme.populate .representative value = .ok filled ∧
        ((run limits later ["interlace", s, f]).status = 0 ↔
          filled.EveryContent Json.KeysWellFormed ∧ filled.LevelsWithin limits.values) := by
  obtain ⟨_, page, -, p_file⟩ := exists_files_of_extract option .absent s_plain p_plain done
  rw [run_extract option .absent s_plain p_plain given p_file] at done saved ⊢
  rw [run_extract option .given s_plain p_plain given p_file,
    run_populate s_plain f_plain kept saved]
  have valid := Document.valid_of_load loaded
  obtain ⟨value, reads⟩ := exists_reads loaded done
  constructor
  · exact (reads.ending_populate joined rfl).trans (reads.ending_extract true).symm
  · exact ⟨value, _, reads.output_extract, valid.populate_eq .representative value,
      reads.status_populate joined rfl⟩

/-! ### Paragraphs of a page -/

/-- A folder with a scheme and a page. -/
def inputFolder (scheme page : List UInt8) : Folder :=
  ⟨[("s.json", .file scheme), ("p.html", .file page)]⟩

/-- The folder after what the scheme reads was output to a file. -/
def savedFolder (scheme page : List UInt8) (options : List String) : Folder :=
  ⟨("f.json", .file (Utf8.encode
      (run .usual (inputFolder scheme page)
        ("extract" :: options ++ ["s.json", "p.html"])).output)) ::
    (inputFolder scheme page).entries⟩

section Saved
variable {scheme page : List UInt8} {document : Document} {value : Json} {url : Option String}
  {options : List String}

variable (scheme page) in
theorem inputFolder_files :
    Folder.entry? (inputFolder scheme page) "s.json" = some (.file scheme) ∧
      Folder.entry? (inputFolder scheme page) "p.html" = some (.file page) := ⟨rfl, rfl⟩

variable (scheme page options) in
theorem savedFolder_files :
    Folder.entry? (savedFolder scheme page options) "s.json" = some (.file scheme) ∧
      Folder.entry? (savedFolder scheme page options) "f.json" = some (.file (Utf8.encode
        (run .usual (inputFolder scheme page)
          ("extract" :: options ++ ["s.json", "p.html"])).output)) := ⟨rfl, rfl⟩

variable (option : UrlOption url options)
  (reads : Reads .usual (url.map Text.ofString) scheme page document value)
include option reads

theorem done_inputFolder :
    (run .usual (inputFolder scheme page) ("extract" :: options ++ ["s.json", "p.html"])).status =
        0 ∧
      (run .usual (inputFolder scheme page) ("extract" :: options ++ ["s.json", "p.html"])).output =
        value.indented ++ "\n" := by
  obtain ⟨scheme_file, page_file⟩ := inputFolder_files scheme page
  rw [run_extract option .absent rfl rfl scheme_file page_file, Outcome.status,
    reads.ending_extract]
  exact ⟨rfl, reads.output_extract⟩

theorem status_savedFolder (joined : document.scheme.HasJoinedKeys) :
    (run .usual (savedFolder scheme page options) ["interlace", "s.json", "f.json"]).status = 0 ↔
      (document.scheme.populated .representative value).EveryContent Json.KeysWellFormed ∧
        (document.scheme.populated .representative value).LevelsWithin Limits.usual.values := by
  obtain ⟨scheme_file, page_file⟩ := inputFolder_files scheme page
  obtain ⟨kept, saved⟩ := savedFolder_files scheme page options
  rw [run_extract option .absent rfl rfl scheme_file page_file] at saved
  rw [run_populate rfl rfl kept saved, reads.status_populate joined rfl]

end Saved

/-- A scheme that reads the paragraphs of a page for a key. -/
def paragraphs (key : Text) (old : Json) : Scheme :=
  .list {} none (some (.object {} [⟨key,
    some (.string {} (some (Text.ofString "p")) .innerHtml old)⟩])) none none

/-- What is kept of the old content in a written scheme. -/
def keptContent (old : Json) : List (String × Json) := if old.isNull then [] else [("content", old)]

def writtenParagraphs (key : Text) (old : Json) : Json :=
  .ofMembers [("type", .ofString "LIST"), ("element_scheme", .ofMembers [
    ("type", .ofString "OBJECT"), ("fields", .array [.ofMembers [("key", .string key),
      ("value", .ofMembers ([("type", .ofString "STRING"), ("path", .ofString "p"),
        ("mode", .ofString "INNER_HTML")] ++ keptContent old))]])])]

def paragraphsBytes (key : Text) (old : Json) : List UInt8 :=
  Utf8.encode ((writtenParagraphs key old).indented ++ "\n")

section Paragraphs
variable {key : Text} {old : Json}

theorem toJson_paragraphs (is_finite : old.IsFinite) :
    (paragraphs key old).toJson = writtenParagraphs key old := by
  have kept : contentMember old =
      (keptContent old).map fun member => (Text.ofString member.1, member.2) := by
    rw [contentMember, keptContent, is_finite.finite_eq]
    split <;> rfl
  have paragraph : Json.object (Scheme.stringMembers {} (some (Text.ofString "p")) .innerHtml old) =
      .ofMembers ([("type", .ofString "STRING"), ("path", .ofString "p"),
        ("mode", .ofString "INNER_HTML")] ++ keptContent old) := by
    rw [Scheme.stringMembers, kept, Json.ofMembers, List.map_append]
    rfl
  rw [writtenParagraphs, ← paragraph]
  rfl

theorem isPortable_writtenParagraphs (joined : key.IsJoined) (portable : old.IsPortable) :
    (writtenParagraphs key old).IsPortable := by
  rw [writtenParagraphs, keptContent]
  split <;> simp [Json.ofString, Text.isJoined_ofString, joined, portable]

theorem depth_writtenParagraphs_le : (writtenParagraphs key old).depth ≤ old.depth + 5 := by
  have no_depth : ∀ t : Text, (Json.string t).depth = 0 := fun _ => rfl
  rw [writtenParagraphs, keptContent]
  split <;>
    simp [Json.ofMembers, Json.ofString, Json.height_object_le, Json.height_array_le, no_depth]

theorem everyContent_paragraphs {holds : Json → Prop} :
    (paragraphs key old).EveryContent holds ↔ holds old := by
  simp [paragraphs, Scheme.everyContent_list, Scheme.everyContent_object]

theorem load_paragraphsBytes (joined : key.IsJoined) (portable : old.IsPortable)
    (is_finite : old.IsFinite) (shallow : old.depth ≤ 300) :
    Document.load .usual (.bytes (paragraphsBytes key old)) = .ok (.bare (paragraphs key old)) := by
  let document : Document := .bare (paragraphs key old)
  have fits : (writtenParagraphs key old).depth ≤ Limits.usual.document :=
    depth_writtenParagraphs_le.trans (by show _ ≤ 985; omega)
  have holds : (Written.bytes (paragraphsBytes key old)).Holds .usual (writtenParagraphs key old) :=
    (isPortable_writtenParagraphs joined portable).read_printed fits
  have admissible : document.scheme.Admissible Limits.usual.nodes := by
    refine Scheme.admissible_list ?_ nofun
    rintro element ⟨⟩
    apply Scheme.admissible_object
    rw [List.forall_mem_singleton]
    rintro paragraph ⟨⟩
    exact Scheme.admissible_string
  have written : document.toJson = writtenParagraphs key old := toJson_paragraphs is_finite
  have same : document.scheme.finite = document.scheme :=
    Scheme.finite_eq_self (everyContent_paragraphs.mpr is_finite)
  rw [Document.load_of_holds holds, ← written, Document.loadValue_toJson admissible, same,
    Document.withScheme_scheme]

theorem hasJoinedKeys_paragraphs (joined : key.IsJoined) : (paragraphs key old).HasJoinedKeys := by
  have leaf : (Scheme.string {} (some (Text.ofString "p")) .innerHtml old).HasJoinedKeys := by
    simp [Scheme.HasJoinedKeys, Scheme.keys]
  simp [paragraphs, Scheme.hasJoinedKeys_list, Scheme.hasJoinedKeys_object, Scheme.keys, joined,
    leaf]

/-! ### A page with a paragraph -/

def pageBytes : List UInt8 := Utf8.encode "<p>x</p>"

def paragraphPage : Page :=
  ⟨[], .element "html" [] [.element "body" [] [.element "p" [] [.text "x"]]], []⟩

theorem read_pageBytes : Page.read (.bytes pageBytes) = .ok paragraphPage := by rfl

/-- The single paragraph, read for a key. -/
def paragraphItems (key : Text) : Json := .array [.object [(key, .ofString "x")]]

theorem one_paragraphs (url : Text) :
    Extraction.one url (paragraphs key old) paragraphPage.rootPlace = .ok (paragraphItems key) :=
  rfl

theorem reads_paragraphs (joined : key.IsJoined) (url : Option Text) :
    Reads .usual url (paragraphsBytes key .null) pageBytes (.bare (paragraphs key .null))
      (paragraphItems key) :=
  ⟨load_paragraphsBytes joined .null .null (Nat.zero_le 300),
    paragraphPage, read_pageBytes, one_paragraphs _⟩

theorem populated_paragraphs :
    (paragraphs key old).populated .representative (paragraphItems key) =
      .list {} none (some (.object {} [⟨key,
        some (.string {} (some (Text.ofString "p")) .innerHtml (.ofString "x"))⟩]))
        (some [.object [(key, .ofString "x")]]) none := by
  simp [paragraphs, paragraphItems, Scheme.fieldPopulated, Scheme.populatedFrom, Field.map,
    Json.items, Json.get?, Json.members, Json.lookup, Scheme.copies]

theorem keysWellFormed_populated_paragraphs :
    ((paragraphs key old).populated .representative (paragraphItems key)).EveryContent
      Json.KeysWellFormed ↔ key.isWellFormed = true := by
  rw [populated_paragraphs]
  simp [Scheme.everyContent_list, Scheme.everyContent_object, Json.ofString]

theorem levelsWithin_populated_paragraphs :
    ((paragraphs key old).populated .representative (paragraphItems key)).LevelsWithin
      Limits.usual.values := by
  have small : (Json.ofString "x").levels = 1 := rfl
  rw [populated_paragraphs, Limits.usual, Scheme.levelsWithin_list]
  refine ⟨by simp [Json.height_object_le, small], ?_, by rintro _ ⟨⟩⟩
  rintro _ ⟨⟩
  rw [Scheme.levelsWithin_object, List.forall_mem_singleton]
  rintro _ ⟨⟩
  rw [Scheme.levelsWithin_string]
  exact .inr (by simp [small])

/-- What the paragraphs are populated with from a file is what they are populated with at once. -/
theorem paragraphs_populated_alike :
    let scheme := paragraphsBytes (Text.ofString "text") .null
    let line := ["extract", "--url", "http://page/", "s.json", "p.html"]
    let folder := inputFolder scheme pageBytes
    let later := savedFolder scheme pageBytes ["--url", "http://page/"]
    (run .usual folder line).status = 0 ∧
      later.entry? "f.json" = some (.file (Utf8.encode (run .usual folder line).output)) ∧
      (run .usual later ["interlace", "s.json", "f.json"]).ending =
        (run .usual folder (line ++ ["--interlace"])).ending ∧
      (run .usual later ["interlace", "s.json", "f.json"]).status = 0 := by
  intro scheme line folder later
  have joined := Text.isJoined_ofString "text"
  have option := UrlOption.apart "http://page/"
  have reads := reads_paragraphs joined (some (Text.ofString "http://page/"))
  obtain ⟨done, -⟩ := done_inputFolder option reads
  obtain ⟨given, -⟩ := inputFolder_files scheme pageBytes
  obtain ⟨kept, saved⟩ := savedFolder_files scheme pageBytes ["--url", "http://page/"]
  have joined_keys :
    (Document.bare (paragraphs (Text.ofString "text") .null)).scheme.HasJoinedKeys :=
    hasJoinedKeys_paragraphs joined
  obtain ⟨alike, -⟩ :=
    populate_from_output option rfl rfl rfl given reads.loaded joined_keys done kept saved
  refine ⟨done, saved, alike, (status_savedFolder option reads joined_keys).mpr ⟨?_, ?_⟩⟩
  · exact keysWellFormed_populated_paragraphs.mpr (Text.isWellFormed_ofString "text")
  · exact levelsWithin_populated_paragraphs

/-! ### A page without one -/

def barePageBytes : List UInt8 := Utf8.encode "<ul></ul>"

def barePage : Page := ⟨[], .element "html" [] [.element "body" [] [.element "ul" [] []]], []⟩

theorem read_barePageBytes : Page.read (.bytes barePageBytes) = .ok barePage := by rfl

theorem one_paragraphs_bare (url : Text) :
    Extraction.one url (paragraphs key old) barePage.rootPlace = .ok (.array []) := rfl

/-- Where there is no paragraph, the old content of the scheme stays. -/
theorem populated_paragraphs_bare :
    (paragraphs key old).populated .representative (.array []) =
      .list {} none (some (.object {} [⟨key,
        some (.string {} (some (Text.ofString "p")) .innerHtml old)⟩])) (some []) none := by
  simp [paragraphs, Scheme.fieldPopulated, Scheme.populatedFrom, Field.map, Json.items, Json.get?,
    Json.members, Json.lookup, Scheme.copies]

theorem everyContent_populated_paragraphs_bare {holds : Json → Prop} :
    ((paragraphs key old).populated .representative (.array [])).EveryContent holds ↔
      holds old := by
  rw [populated_paragraphs_bare]
  simp [Scheme.everyContent_list, Scheme.everyContent_object]

theorem levels_lt_of_populated_paragraphs_bare (given : old.isNull = false)
    (within : ((paragraphs key old).populated .representative (.array [])).LevelsWithin
      Limits.usual.values) : old.levels < Limits.usual.values := by
  rw [populated_paragraphs_bare, Limits.usual, Scheme.levelsWithin_list] at within
  have in_element := within.2.1 _ rfl
  rw [Scheme.levelsWithin_object, List.forall_mem_singleton] at in_element
  have in_string := in_element _ rfl
  rw [Scheme.levelsWithin_string, given] at in_string
  have few : old.levels ≤ 251 := by simpa using in_string
  show old.levels < 254
  omega

theorem reads_paragraphs_bare (joined : key.IsJoined) (url : Option Text) :
    Reads .usual url (paragraphsBytes key (.nested 300)) barePageBytes
      (.bare (paragraphs key (.nested 300))) (.array []) :=
  ⟨load_paragraphsBytes joined (Json.isPortable_nested 300) (Json.isFinite_nested 300)
    (Json.height_nested 300 0).le, barePage, read_barePageBytes, one_paragraphs_bare _⟩

end Paragraphs

/-! ### What is not output -/

/-- Whatever is populated and has a property is output by the two steps as it is at once. -/
def AlwaysPopulated (holds : Scheme → Prop) : Prop :=
  ∀ (folder later : Folder) (url : Option String) (options : List String) (s p f : String)
    (bytes : List UInt8) (document : Document) (value : Json) (filled : Scheme),
    UrlOption url options → isOption s = false → isOption p = false → isOption f = false →
    folder.entry? s = some (.file bytes) → Document.load .usual (.bytes bytes) = .ok document →
    document.scheme.HasJoinedKeys →
    (run .usual folder ("extract" :: options ++ [s, p])).status = 0 →
    (run .usual folder ("extract" :: options ++ [s, p])).output = value.indented ++ "\n" →
    document.scheme.populate .representative value = .ok filled → holds filled →
    later.entry? s = some (.file bytes) →
    later.entry? f =
      some (.file (Utf8.encode (run .usual folder ("extract" :: options ++ [s, p])).output)) →
    (run .usual later ["interlace", s, f]).status = 0 ∧
      (run .usual later ["interlace", s, f]).output =
        (run .usual folder ("extract" :: options ++ [s, p, "--interlace"])).output

/-- In particular what is populated can be output. -/
theorem AlwaysPopulated.fits {holds : Scheme → Prop} (always : AlwaysPopulated holds)
    {scheme page : List UInt8} {document : Document} {value : Json}
    (reads : Reads .usual none scheme page document value) (joined : document.scheme.HasJoinedKeys)
    (has : holds (document.scheme.populated .representative value)) :
    (document.scheme.populated .representative value).EveryContent Json.KeysWellFormed ∧
      (document.scheme.populated .representative value).LevelsWithin Limits.usual.values := by
  have no_url : UrlOption none [] := .absent
  obtain ⟨given, -⟩ := inputFolder_files scheme page
  obtain ⟨kept, saved⟩ := savedFolder_files scheme page []
  obtain ⟨done, output⟩ := done_inputFolder no_url reads
  have populated := (Document.valid_of_load reads.loaded).populate_eq .representative value
  obtain ⟨ends_well, -⟩ := always _ _ none [] "s.json" "p.html" "f.json" _ _ _ _ no_url rfl rfl rfl
    given reads.loaded joined done output populated has kept saved
  exact (status_savedFolder no_url reads joined).mp ends_well

/-- A key with a lone surrogate is output by itself, but not in a populated document, and neither is
old content that goes too deep. -/
theorem not_always_populated_from_output :
    ¬ AlwaysPopulated (Scheme.LevelsWithin Limits.usual.values) ∧
      ¬ AlwaysPopulated (Scheme.EveryContent Json.KeysWellFormed) := by
  constructor
  · intro always
    have joined : Text.IsJoined [.lone 0] := List.isChain_singleton _
    obtain ⟨fit, -⟩ := always.fits (reads_paragraphs joined none) (hasJoinedKeys_paragraphs joined)
      levelsWithin_populated_paragraphs
    exact absurd (keysWellFormed_populated_paragraphs.mp fit) (by decide)
  · intro always
    have joined := Text.isJoined_ofString "text"
    obtain ⟨-, within⟩ := always.fits (reads_paragraphs_bare joined none)
      (hasJoinedKeys_paragraphs joined)
      (everyContent_populated_paragraphs_bare.mpr (Json.keysWellFormed_nested 300))
    have few := levels_lt_of_populated_paragraphs_bare rfl within
    rw [Json.levels_nested] at few
    exact absurd few (by decide)

end PageScheme.Command
