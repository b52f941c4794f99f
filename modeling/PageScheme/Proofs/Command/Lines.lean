import Mathlib.Data.List.TakeDrop
import PageScheme.Command.Running
import PageScheme.Proofs.Sequencing

/-!
# Command lines and the files they name

A line is sorted word by word: an option sets its switch, with its value in the next word or behind
an equals sign, and every other word is a plain one. From this follows what a line comes to that
extracts or populates (`run_extract`, `run_populate`): which files it takes, and which switches are
set.
-/
namespace PageScheme.Command

/-! ### Sorting words -/

section Sorting
variable {form : Form} {word : String} {rest : List String}

theorem ne_of_isOption_eq_false (no_option : isOption word = false) : word ≠ "--" := by
  rintro rfl
  contradiction

theorem sortWords_plain (mixed : form.mixed = true) (no_option : isOption word = false) :
    sortWords form (word :: rest) = (sortWords form rest).map (Words.add word) := by
  rw [sortWords, if_neg (ne_of_isOption_eq_false no_option), no_option, mixed]
  rfl

theorem sortWords_first (fixed : form.mixed = false) (no_option : isOption word = false) :
    sortWords form (word :: rest) = .ok { plain := word :: rest } := by
  rw [sortWords, if_neg (ne_of_isOption_eq_false no_option), no_option, fixed]
  rfl

end Sorting

/-! ### Options -/

theorem Switch.name_injective {switch other : Switch} (same : switch.name = other.name) :
    switch = other := by
  cases switch <;> cases other <;> first | rfl | simp [name] at same

theorem find?_name {form : Form} {switch : Switch} (known : switch ∈ form.switches) :
    form.switches.find? (fun other => other.name = switch.name) = some switch := by
  obtain ⟨found, is_found⟩ := Option.isSome_iff_exists.mp
    (List.find?_isSome.mpr ⟨switch, known, decide_eq_true rfl⟩ :
      (form.switches.find? fun other => other.name = switch.name).isSome)
  have same := List.find?_some is_found
  rw [is_found, Switch.name_injective (of_decide_eq_true same)]

/-- What is written behind the equals sign of an option is its value. -/
theorem splitValue_joined {name : String} (no_equals : '=' ∉ name.toList) (value : String) :
    splitValue (name ++ "=" ++ value) = (name, some value) := by
  have split : (name ++ "=" ++ value).toList.span (· ≠ '=') =
      (name.toList, '=' :: value.toList) := by
    have before : ∀ c ∈ name.toList, (decide (c ≠ '=')) = true := by
      intro c member
      rw [decide_eq_true_eq]
      rintro rfl
      exact no_equals member
    rw [List.span_eq_takeWhile_dropWhile, String.toList_append, String.toList_append,
      List.append_assoc, List.takeWhile_append_of_pos before, List.dropWhile_append_of_pos before]
    simp
  rw [splitValue, split]
  simp

theorem ne_and_isOption {word : String} {c : Char} {cs : List Char}
    (begins : word.toList = '-' :: '-' :: c :: cs) : word ≠ "--" ∧ isOption word = true := by
  constructor
  · rintro rfl
    simp at begins
  · rw [isOption, begins]
    rfl

section Options
variable {form : Form} {switch : Switch} {value : String} {rest : List String}

theorem splitValue_name (switch : Switch) : splitValue switch.name = (switch.name, none) := by
  cases switch <;> decide

/-- The name of an option begins with two strokes, and has no equals sign. -/
theorem exists_name_eq (switch : Switch) :
    ∃ c cs, switch.name.toList = '-' :: '-' :: c :: cs ∧ '=' ∉ switch.name.toList := by
  cases switch <;> exact ⟨_, _, rfl, by decide⟩

/-- An option without a value sets its switch. -/
theorem sortWords_switch (known : switch ∈ form.switches) (alone : switch.takesValue = false) :
    sortWords form (switch.name :: rest) = (sortWords form rest).map (Words.set switch "") := by
  obtain ⟨c, cs, begins, -⟩ := exists_name_eq switch
  obtain ⟨no_end, is_option⟩ := ne_and_isOption begins
  rw [sortWords, if_neg no_end, if_pos is_option]
  simp only [splitValue_name, find?_name known, alone]
  rfl

/-- The value of an option is the next word. -/
theorem sortWords_value (known : switch ∈ form.switches) (takes : switch.takesValue = true) :
    sortWords form (switch.name :: value :: rest) =
      (sortWords form rest).map (Words.set switch value) := by
  obtain ⟨c, cs, begins, -⟩ := exists_name_eq switch
  obtain ⟨no_end, is_option⟩ := ne_and_isOption begins
  rw [sortWords, if_neg no_end, if_pos is_option]
  simp only [splitValue_name, find?_name known, takes]
  rfl

/-- The value of an option may also stand in the same word. -/
theorem sortWords_joined (known : switch ∈ form.switches) (takes : switch.takesValue = true) :
    sortWords form ((switch.name ++ "=" ++ value) :: rest) =
      (sortWords form rest).map (Words.set switch value) := by
  obtain ⟨c, cs, begins, no_equals⟩ := exists_name_eq switch
  have longer : (switch.name ++ "=" ++ value).toList =
      '-' :: '-' :: c :: (cs ++ '=' :: value.toList) := by
    simp [begins]
  obtain ⟨no_end, is_option⟩ := ne_and_isOption longer
  rw [sortWords, if_neg no_end, if_pos is_option]
  simp only [splitValue_joined no_equals, find?_name known, takes]
  rfl

end Options

/-! ### Lines -/

/-- The ways to set an address among the words of a line: not at all, and with the address in the
next word or the same one. -/
inductive UrlOption : Option String → List String → Prop
  | absent : UrlOption none []
  | apart (url : String) : UrlOption (some url) ["--url", url]
  | joined (url : String) : UrlOption (some url) ["--url=" ++ url]

/-- The words that ask for the result to be shown in the scheme, or not. -/
inductive PopulatedOption : Bool → List String → Prop
  | absent : PopulatedOption false []
  | given : PopulatedOption true ["--interlace"]

section Lines
variable {url : Option String} {inScheme : Bool} {options flags : List String} {folder : Folder}

def urlSettings (url : Option String) : List (Switch × String) := url.toList.map (Switch.url, ·)

def populatedSettings (inScheme : Bool) : List (Switch × String) :=
  if inScheme then [(.populated, "")] else []

theorem UrlOption.sortWords (option : UrlOption url options) (rest : List String) :
    Command.sortWords (.ofAction .extract) (options ++ rest) =
      (Command.sortWords (.ofAction .extract) rest).map fun words =>
        { words with settings := urlSettings url ++ words.settings } := by
  have known : Switch.url ∈ (Form.ofAction .extract).switches := by decide
  cases option with
  | absent =>
    rw [List.nil_append]
    cases Command.sortWords (.ofAction .extract) rest <;> rfl
  | apart url => exact sortWords_value known rfl
  | joined url => exact sortWords_joined known rfl

theorem PopulatedOption.sortWords (flag : PopulatedOption inScheme flags) :
    Command.sortWords (.ofAction .extract) flags = .ok ⟨populatedSettings inScheme, []⟩ := by
  have known : Switch.populated ∈ (Form.ofAction .extract).switches := by decide
  cases flag with
  | absent => simp [Command.sortWords, populatedSettings]
  | given => exact sortWords_switch known rfl

/-- A line with a command is read by the form of the command, which may ask for help instead. -/
theorem read_eq {action : Action} {line : List String} {words : Words}
    (sorted : sortWords (.ofAction action) line = .ok words)
    (no_help : Call.ofSettings (.ofAction action) words = none) :
    Call.read (action.name :: line) = .ok (.request action words) := by
  have no_option : isOption action.name = false := by cases action <;> rfl
  have first : Form.program.sort (action.name :: line) = .ok { plain := action.name :: line } := by
    rw [Form.sort, sortWords_first rfl no_option]
    rfl
  have behind : (Form.ofAction action).sort line = .ok words := by
    rw [Form.sort, sorted]
    rfl
  rw [Call.read, first]
  simp only [bind, Except.bind, Call.ofSettings, List.findSome?_nil, Action.ofName?_name,
    Action.read, behind] at no_help ⊢
  rw [no_help]
  rfl

variable {s p f : String}

theorem read_extract (option : UrlOption url options) (flag : PopulatedOption inScheme flags)
    (s_plain : isOption s = false) (p_plain : isOption p = false) :
    Call.read ("extract" :: options ++ s :: p :: flags) =
      .ok (.request .extract ⟨urlSettings url ++ populatedSettings inScheme, [s, p]⟩) := by
  have sorted : sortWords (.ofAction .extract) (options ++ s :: p :: flags) =
      .ok ⟨urlSettings url ++ populatedSettings inScheme, [s, p]⟩ := by
    rw [option.sortWords, sortWords_plain rfl s_plain, sortWords_plain rfl p_plain, flag.sortWords]
    rfl
  exact read_eq sorted (by cases url <;> cases inScheme <;> rfl)

theorem read_populate (s_plain : isOption s = false) (f_plain : isOption f = false) :
    Call.read ["interlace", s, f] = .ok (.request .populate ⟨[], [s, f]⟩) := by
  have sorted : sortWords (.ofAction .populate) [s, f] = .ok ⟨[], [s, f]⟩ := by
    rw [sortWords_plain rfl s_plain, sortWords_plain rfl f_plain]
    rfl
  exact read_eq sorted rfl

end Lines

/-! ### Files -/

section Files
variable {folder : Folder} {settings : List (Switch × String)} {request : Request} {s p : String}

theorem intake_eq_ok {α β : Type} {step : Intake α} {next : α → Intake β} {words : List String}
    {taken : β × List String} :
    (step >>= next) words = .ok taken ↔
      ∃ a rest, step words = .ok (a, rest) ∧ next a rest = .ok taken := by
  exact bind_eq_ok.trans Prod.exists

theorem takeFile_eq_ok {argument : Argument} {name : String} {rest : List String}
    {taken : NamedFile × List String} :
    takeFile folder argument (name :: rest) = .ok taken ↔
      ∃ bytes, folder.entry? name = some (.file bytes) ∧
        taken = (⟨plainName name, bytes⟩, rest) := by
  rw [takeFile, intake_eq_ok]
  constructor
  · rintro ⟨_, _, ⟨⟩, found⟩
    cases entry : folder.entry? name with
    | none =>
      rw [entry] at found
      cases found
    | some kind =>
      rw [entry] at found
      cases kind with
      | file bytes =>
        cases found
        exact ⟨bytes, rfl, rfl⟩
      | folder => cases found
      | locked => cases found
  · rintro ⟨bytes, entry, rfl⟩
    refine ⟨name, rest, rfl, ?_⟩
    simp only [entry]
    rfl

/-- A command that takes two files takes those that its two words name. -/
theorem takeFiles_eq_ok {first second : Argument} {make : NamedFile → NamedFile → Request} :
    (do return make (← takeFile folder first) (← takeFile folder second) : Intake Request)
        [s, p] = .ok (request, []) ↔
      ∃ front back, folder.entry? s = some (.file front) ∧ folder.entry? p = some (.file back) ∧
        request = make ⟨plainName s, front⟩ ⟨plainName p, back⟩ := by
  constructor
  · intro took
    obtain ⟨_, _, first_taken, took⟩ := intake_eq_ok.mp took
    obtain ⟨front, s_found, ⟨⟩⟩ := takeFile_eq_ok.mp first_taken
    obtain ⟨_, _, second_taken, took⟩ := intake_eq_ok.mp took
    obtain ⟨back, p_found, ⟨⟩⟩ := takeFile_eq_ok.mp second_taken
    cases took
    exact ⟨front, back, s_found, p_found, rfl⟩
  · rintro ⟨front, back, s_found, p_found, rfl⟩
    refine intake_eq_ok.mpr ⟨_, _, takeFile_eq_ok.mpr ⟨front, s_found, rfl⟩, ?_⟩
    exact intake_eq_ok.mpr ⟨_, _, takeFile_eq_ok.mpr ⟨back, p_found, rfl⟩, rfl⟩

/-- A request is what is taken of the words, if no word is left. -/
theorem requestRead_eq_ok {action : Action} {words : Words} :
    Request.read folder action words = .ok request ↔
      action.take folder words words.plain = .ok (request, []) := by
  rw [Request.read, bind_eq_ok]
  constructor
  · rintro ⟨⟨taken, rest⟩, took, none_left⟩
    cases rest with
    | nil =>
      cases none_left
      exact took
    | cons => cases none_left
  · intro took
    exact ⟨_, took, rfl⟩

theorem requestRead_extract_eq_ok :
    Request.read folder .extract ⟨settings, [s, p]⟩ = .ok request ↔
      ∃ scheme page, folder.entry? s = some (.file scheme) ∧ folder.entry? p = some (.file page) ∧
        request = .extract ((Words.value? ⟨settings, [s, p]⟩ .url).map Text.ofString)
          (Words.has ⟨settings, [s, p]⟩ .populated) ⟨plainName s, scheme⟩ ⟨plainName p, page⟩ :=
  requestRead_eq_ok.trans takeFiles_eq_ok

theorem requestRead_populate_eq_ok :
    Request.read folder .populate ⟨settings, [s, p]⟩ = .ok request ↔
      ∃ scheme content, folder.entry? s = some (.file scheme) ∧
        folder.entry? p = some (.file content) ∧
        request = .populate
          (if Words.has ⟨settings, [s, p]⟩ .perElement then .perElement else .representative)
          ⟨plainName s, scheme⟩ ⟨plainName p, content⟩ :=
  requestRead_eq_ok.trans takeFiles_eq_ok

end Files

/-! ### Runs -/

section Runs
variable {limits : Limits} {folder : Folder} {action : Action} {line : List String} {words : Words}

theorem run_of_read (read : Call.read line = .ok (.request action words)) :
    run limits folder line =
      match Request.read folder action words with
      | .ok request => request.run limits (words.has .verbose)
      | .error mistake => ⟨[], .misused (.ofAction action) mistake⟩ := by
  cases line with
  | nil => cases read
  | cons word rest =>
    rw [run, read]
    rfl

/-- A run that ends well is that of a request. -/
theorem exists_request_of_status (read : Call.read line = .ok (.request action words))
    (done : (run limits folder line).status = 0) :
    ∃ request, Request.read folder action words = .ok request := by
  rw [run_of_read read] at done
  cases made : Request.read folder action words with
  | ok request => exact ⟨request, rfl⟩
  | error mistake =>
    rw [made] at done
    contradiction

theorem run_eq {request : Request} (read : Call.read line = .ok (.request action words))
    (made : Request.read folder action words = .ok request) :
    run limits folder line = request.run limits (words.has .verbose) := by
  rw [run_of_read read, made]

variable {url : Option String} {inScheme : Bool} {options flags : List String} {s p f : String}
  {scheme page content : List UInt8}

theorem exists_files_of_extract (option : UrlOption url options)
    (flag : PopulatedOption inScheme flags) (s_plain : isOption s = false)
    (p_plain : isOption p = false)
    (done : (run limits folder ("extract" :: options ++ s :: p :: flags)).status = 0) :
    ∃ scheme page, folder.entry? s = some (.file scheme) ∧
      folder.entry? p = some (.file page) := by
  have read := read_extract option flag s_plain p_plain
  obtain ⟨request, made⟩ := exists_request_of_status read done
  obtain ⟨scheme, page, s_file, p_file, -⟩ := requestRead_extract_eq_ok.mp made
  exact ⟨scheme, page, s_file, p_file⟩

theorem run_extract (option : UrlOption url options) (flag : PopulatedOption inScheme flags)
    (s_plain : isOption s = false) (p_plain : isOption p = false)
    (s_file : folder.entry? s = some (.file scheme))
    (p_file : folder.entry? p = some (.file page)) :
    run limits folder ("extract" :: options ++ s :: p :: flags) =
      runExtract limits false (url.map Text.ofString) inScheme ⟨plainName s, scheme⟩
        ⟨plainName p, page⟩ := by
  rw [run_eq (read_extract option flag s_plain p_plain)
    (requestRead_extract_eq_ok.mpr ⟨scheme, page, s_file, p_file, rfl⟩)]
  cases url <;> cases inScheme <;> rfl

theorem run_populate (s_plain : isOption s = false) (f_plain : isOption f = false)
    (s_file : folder.entry? s = some (.file scheme))
    (f_file : folder.entry? f = some (.file content)) :
    run limits folder ["interlace", s, f] =
      runPopulate limits false .representative ⟨plainName s, scheme⟩ ⟨plainName f, content⟩ :=
  run_eq (read_populate s_plain f_plain)
    (requestRead_populate_eq_ok.mpr ⟨scheme, content, s_file, f_file, rfl⟩)

end Runs
end PageScheme.Command
