import TemplateManual.CommandLine.Arguments

set_option autoImplicit false

namespace TemplateManual

def Flag.spellings : Flag → List String
  | .config => ["--config", "-c"]
  | .output => ["--output", "-o"]
  | .format => ["--format", "-f"]
  | .title => ["--title", "-t"]

def OutputFormat.names : List String := ["markdown", "md", "json"]

def OutputFormat.named (name : String) : OutputFormat := if name = "json" then .json else .markdown

-- A value may look like a flag. Only that of the format is restricted.
structure OptionPair where
  flag : Flag
  spelling : String
  value : String
  spelled : spelling ∈ flag.spellings
  known : flag = .format → value ∈ OutputFormat.names

structure ArgumentPhrase where
  before : List OptionPair
  model : String
  after : List OptionPair
  plain : model.toList.head? ≠ some '-'

def OptionPair.words (pair : OptionPair) : List String := [pair.spelling, pair.value]

def lastValue? (flag : Flag) (pairs : List OptionPair) : Option String :=
  (pairs.filter fun pair => pair.flag = flag).getLast?.map OptionPair.value

namespace ArgumentPhrase

def words (phrase : ArgumentPhrase) : List String :=
  phrase.before.flatMap OptionPair.words ++ phrase.model :: phrase.after.flatMap OptionPair.words

def options (phrase : ArgumentPhrase) : DocsOptions where
  model := phrase.model
  config := lastValue? .config (phrase.before ++ phrase.after)
  output := lastValue? .output (phrase.before ++ phrase.after)
  format := ((lastValue? .format (phrase.before ++ phrase.after)).map .named).getD .markdown
  title := lastValue? .title (phrase.before ++ phrase.after)

end ArgumentPhrase

theorem flag_of_argument_iff (argument : String) (flag : Flag) :
    Flag.ofArgument? argument = some flag ↔ argument ∈ flag.spellings := by
  cases flag <;> grind [Flag.ofArgument?, Flag.spellings]

theorem spelling_dashed (flag : Flag) : ∀ spelling ∈ flag.spellings, spelling.toList.head? = some '-' := by
  cases flag <;> simp [Flag.spellings]

theorem no_flag_of_plain (argument : String) (plain : argument.toList.head? ≠ some '-') :
    Flag.ofArgument? argument = none := by
  cases read : Flag.ofArgument? argument with
  | none => rfl
  | some flag => exact absurd (spelling_dashed flag argument ((flag_of_argument_iff argument flag).mp read)) plain

theorem format_of_argument (value : String) :
    OutputFormat.ofArgument? value = if value ∈ OutputFormat.names then some (.named value) else none := by
  unfold OutputFormat.ofArgument? OutputFormat.names OutputFormat.named
  by_cases json : value = "json"
  · subst json
    rfl
  · by_cases markdown : value = "markdown"
    · subst markdown
      rfl
    · by_cases short : value = "md"
      · subst short
        rfl
      · simp [json, markdown, short]

theorem last_value_append (flag : Flag) (front back : List OptionPair) :
    lastValue? flag (front ++ back) = (lastValue? flag back).or (lastValue? flag front) := by
  simp only [lastValue?, List.filter_append, List.getLast?_append, Option.map_or]

namespace Arguments

def overlaid (arguments : Arguments) (pairs : List OptionPair) : Arguments where
  model := arguments.model
  config := (lastValue? .config pairs).or arguments.config
  output := (lastValue? .output pairs).or arguments.output
  format := ((lastValue? .format pairs).map .named).getD arguments.format
  title := (lastValue? .title pairs).or arguments.title

theorem overlaid_overlaid (arguments : Arguments) (front back : List OptionPair) :
    (arguments.overlaid front).overlaid back = arguments.overlaid (front ++ back) := by
  simp only [overlaid, last_value_append, Option.or_assoc]
  cases lastValue? .format back <;> rfl

theorem set_pair (arguments : Arguments) (pair : OptionPair) :
    arguments.set pair.flag pair.value = .ok (arguments.overlaid [pair]) := by
  obtain ⟨flag, spelling, value, spelled, known⟩ := pair
  cases flag with
  | format => simp [set, format_of_argument, known rfl, overlaid, lastValue?]
  | _ => simp [set, overlaid, lastValue?]

theorem pair_of_set (arguments next : Arguments) (flag : Flag) (spelling value : String)
    (spelled : spelling ∈ flag.spellings) (accepted : arguments.set flag value = .ok next) :
    ∃ pair : OptionPair, pair.words = [spelling, value] ∧ arguments.overlaid [pair] = next := by
  have known : flag = .format → value ∈ OutputFormat.names := by
    intro format
    subst format
    by_cases named : value ∈ OutputFormat.names
    · exact named
    · simp [set, format_of_argument, named] at accepted
  refine ⟨⟨flag, spelling, value, spelled, known⟩, rfl, ?_⟩
  exact Except.ok.inj ((set_pair arguments ⟨flag, spelling, value, spelled, known⟩).symm.trans accepted)

theorem accepted_of_bind (first : Except ArgumentFault Arguments) (given : List String) (result : Arguments)
    (accepted : (first.bind fun next => next.read given) = .ok result) :
    ∃ next, first = .ok next ∧ next.read given = .ok result := by
  cases first with
  | error fault => cases accepted
  | ok next => exact ⟨next, rfl, accepted⟩

theorem read_flag (arguments : Arguments) (flag : Flag) (spelling value : String) (rest : List String)
    (spelled : spelling ∈ flag.spellings) :
    arguments.read (spelling :: value :: rest) = (arguments.set flag value).bind fun next => next.read rest := by
  rw [read, (flag_of_argument_iff spelling flag).mpr spelled]
  dsimp only
  cases arguments.set flag value <;> rfl

theorem read_last_flag (arguments : Arguments) (flag : Flag) (spelling : String)
    (spelled : spelling ∈ flag.spellings) : arguments.read [spelling] = .error (.missingValue flag) := by
  rw [read, (flag_of_argument_iff spelling flag).mpr spelled]

theorem read_no_flag (arguments : Arguments) (argument : String) (rest : List String)
    (other : Flag.ofArgument? argument = none) :
    arguments.read (argument :: rest) = (arguments.setModel argument).bind fun next => next.read rest := by
  cases rest with
  | nil =>
      rw [read, other]
      cases arguments.setModel argument <;> rfl
  | cons next more =>
      rw [read, other]
      cases arguments.setModel argument <;> rfl

theorem set_model_iff (arguments result : Arguments) (argument : String) :
    arguments.setModel argument = .ok result ↔
      argument.toList.head? ≠ some '-' ∧ arguments.model = none ∧
        result = { arguments with model := some argument } := by
  unfold setModel
  by_cases dashed : argument.toList.head? = some '-'
  · simp [dashed]
  · cases known : arguments.model with
    | none => simp [dashed, eq_comm]
    | some model => simp [dashed]

theorem read_pairs (arguments : Arguments) (pairs : List OptionPair) (rest : List String) :
    arguments.read (pairs.flatMap OptionPair.words ++ rest) = (arguments.overlaid pairs).read rest := by
  induction pairs generalizing arguments with
  | nil => rfl
  | cons pair more ih =>
      have first : arguments.read (pair.words ++ (more.flatMap OptionPair.words ++ rest)) =
          (arguments.overlaid [pair]).read (more.flatMap OptionPair.words ++ rest) := by
        rw [OptionPair.words, List.cons_append, List.singleton_append,
          read_flag arguments pair.flag pair.spelling pair.value _ pair.spelled, set_pair]
        rfl
      rw [List.flatMap_cons, List.append_assoc, first, ih, overlaid_overlaid, List.singleton_append]

theorem read_phrase (phrase : ArgumentPhrase) :
    blank.read phrase.words =
      .ok { blank.overlaid (phrase.before ++ phrase.after) with model := some phrase.model } := by
  have placed : (blank.overlaid phrase.before).setModel phrase.model =
      .ok { blank.overlaid phrase.before with model := some phrase.model } :=
    (set_model_iff _ _ _).mpr ⟨phrase.plain, rfl, rfl⟩
  have last := read_pairs { blank.overlaid phrase.before with model := some phrase.model } phrase.after []
  rw [List.append_nil, read] at last
  rw [ArgumentPhrase.words, read_pairs, read_no_flag _ _ _ (no_flag_of_plain phrase.model phrase.plain), placed]
  refine last.trans (congrArg Except.ok ?_)
  rw [← overlaid_overlaid]
  rfl

-- What was read is a list of pairs, or a whole phrase if no file was known before.
theorem phrased_of_read (given : List String) (arguments result : Arguments)
    (accepted : arguments.read given = .ok result) :
    (∃ pairs : List OptionPair, pairs.flatMap OptionPair.words = given ∧ result.model = arguments.model) ∨
      arguments.model = none ∧ ∃ phrase : ArgumentPhrase, phrase.words = given := by
  cases given with
  | nil =>
      cases accepted
      exact Or.inl ⟨[], rfl, rfl⟩
  | cons argument rest =>
      cases flagged : Flag.ofArgument? argument with
      | none =>
          rw [read_no_flag arguments argument rest flagged] at accepted
          obtain ⟨next, placed, later⟩ := accepted_of_bind _ _ result accepted
          obtain ⟨plain, unknown, rfl⟩ := (set_model_iff arguments next argument).mp placed
          rcases phrased_of_read rest _ result later with ⟨pairs, rfl, _⟩ | ⟨absent, _⟩
          · exact Or.inr ⟨unknown, ⟨[], argument, pairs, plain⟩, rfl⟩
          · cases absent
      | some flag =>
          have spelled := (flag_of_argument_iff argument flag).mp flagged
          cases rest with
          | nil =>
              rw [read_last_flag arguments flag argument spelled] at accepted
              cases accepted
          | cons value rest =>
              rw [read_flag arguments flag argument value rest spelled] at accepted
              obtain ⟨next, placed, later⟩ := accepted_of_bind _ _ result accepted
              obtain ⟨pair, words, rfl⟩ := pair_of_set arguments next flag argument value spelled placed
              rcases phrased_of_read rest _ result later with ⟨pairs, rfl, kept⟩ | ⟨unknown, phrase, rfl⟩
              · refine Or.inl ⟨pair :: pairs, ?_, kept⟩
                rw [List.flatMap_cons, words]
                rfl
              · refine Or.inr ⟨unknown, { phrase with before := pair :: phrase.before }, ?_⟩
                rw [ArgumentPhrase.words, List.flatMap_cons, words]
                rfl

end Arguments

theorem options_of_phrase (phrase : ArgumentPhrase) :
    DocsOptions.ofArguments phrase.words = .ok phrase.options := by
  rw [DocsOptions.ofArguments, Arguments.read_phrase]
  simp [ArgumentPhrase.options, Arguments.overlaid, Arguments.blank]

theorem phrase_of_options (given : List String) (options : DocsOptions)
    (accepted : DocsOptions.ofArguments given = .ok options) :
    ∃ phrase : ArgumentPhrase, phrase.words = given := by
  rw [DocsOptions.ofArguments] at accepted
  cases read : Arguments.blank.read given with
  | error fault => simp [read] at accepted
  | ok result =>
      rcases Arguments.phrased_of_read given .blank result read with ⟨_, _, kept⟩ | ⟨_, phrased⟩
      · have unknown : result.model = none := kept
        simp [read, unknown] at accepted
      · exact phrased

theorem arguments_read_iff_phrased (given : List String) (options : DocsOptions) :
    DocsOptions.ofArguments given = .ok options ↔
      ∃ phrase : ArgumentPhrase, phrase.words = given ∧ phrase.options = options := by
  constructor
  · intro accepted
    obtain ⟨phrase, rfl⟩ := phrase_of_options given options accepted
    exact ⟨phrase, rfl, Except.ok.inj ((options_of_phrase phrase).symm.trans accepted)⟩
  · rintro ⟨phrase, rfl, rfl⟩
    exact options_of_phrase phrase

example :
    DocsOptions.ofArguments ["-t", "-f", "-f", "json", "a.json", "--title", "--title", "-f", "md"] =
      .ok ⟨"a.json", none, none, .markdown, some "--title"⟩ := by
  rfl

end TemplateManual
