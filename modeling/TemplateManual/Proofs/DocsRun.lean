import TemplateManual.CommandLine.Run
import TemplateManual.Proofs.FileTree

set_option autoImplicit false

namespace TemplateManual.Docs

inductive Refused (tree : FileTree) (arguments : List String) : Prop where
  | arguments (fault : ArgumentFault) (given : DocsOptions.ofArguments arguments = .error fault)
  | noTemplate (options : DocsOptions) (fault : ReadFault)
      (given : DocsOptions.ofArguments arguments = .ok options)
      (read : tree.read options.model = .error fault)
  | badTemplate (options : DocsOptions) (text : String) (fault : Json.Fault)
      (given : DocsOptions.ofArguments arguments = .ok options)
      (read : tree.read options.model = .ok text) (decoded : Template.ofText text = .error fault)
  | noSettings (options : DocsOptions) (path : String) (fault : ReadFault)
      (given : DocsOptions.ofArguments arguments = .ok options) (config : options.config = some path)
      (read : tree.read path = .error fault)
  | badSettings (options : DocsOptions) (path text : String) (fault : Failure)
      (given : DocsOptions.ofArguments arguments = .ok options) (config : options.config = some path)
      (read : tree.read path = .ok text) (decoded : Settings.ofToml text = .error fault)

structure Accepted (tree : FileTree) (arguments : List String) (options : DocsOptions)
    (template : Template) (settings : Settings) : Prop where
  given : DocsOptions.ofArguments arguments = .ok options
  template : ∃ text, tree.read options.model = .ok text ∧ Template.ofText text = .ok template
  settings : (options.config = none ∧ settings = .initial) ∨
    ∃ path text, options.config = some path ∧ tree.read path = .ok text ∧ Settings.ofToml text = .ok settings

-- A title among the arguments shows in the Markdown only.
def content (options : DocsOptions) (template : Template) (settings : Settings) : String :=
  match options.format with
  | .markdown => (template.document { settings with title := options.title.or settings.title }).markdown
  | .json => template.manual.value.toJson.indented 0 ++ "\n"

theorem load_template_unread (tree : FileTree) (path : String) (fault : ReadFault)
    (read : tree.read path = .error fault) :
    loadTemplate FileTree.disk path tree = (.error (.readModel path), tree) := by
  simp only [loadTemplate, FileTree.disk, bind, StateT.bind, read]
  rfl

theorem load_template_malformed (tree : FileTree) (path text : String) (fault : Json.Fault)
    (read : tree.read path = .ok text) (decoded : Template.ofText text = .error fault) :
    loadTemplate FileTree.disk path tree = (.error (.parseModel path), tree) := by
  simp only [loadTemplate, FileTree.disk, bind, StateT.bind, read, decoded]
  rfl

theorem load_template_read (tree : FileTree) (path text : String) (template : Template)
    (read : tree.read path = .ok text) (decoded : Template.ofText text = .ok template) :
    loadTemplate FileTree.disk path tree = (.ok template, tree) := by
  simp only [loadTemplate, FileTree.disk, bind, StateT.bind, read, decoded]
  rfl

theorem load_settings_initial (tree : FileTree) (options : DocsOptions) (config : options.config = none) :
    loadSettings FileTree.disk options tree = (.ok (options.retitle .initial), tree) := by
  simp only [loadSettings, config]
  rfl

theorem load_settings_unread (tree : FileTree) (options : DocsOptions) (path : String) (fault : ReadFault)
    (config : options.config = some path) (read : tree.read path = .error fault) :
    loadSettings FileTree.disk options tree = (.error (.loadConfig path), tree) := by
  cases fault <;> simp only [loadSettings, Settings.load, config, FileTree.disk, bind, StateT.bind, read] <;> rfl

theorem load_settings_malformed (tree : FileTree) (options : DocsOptions) (path text : String)
    (fault : Failure) (config : options.config = some path) (read : tree.read path = .ok text)
    (decoded : Settings.ofToml text = .error fault) :
    loadSettings FileTree.disk options tree = (.error (.loadConfig path), tree) := by
  simp only [loadSettings, Settings.load, config, FileTree.disk, bind, StateT.bind, read, decoded]
  rfl

theorem load_settings_read (tree : FileTree) (options : DocsOptions) (path text : String)
    (settings : Settings) (config : options.config = some path) (read : tree.read path = .ok text)
    (decoded : Settings.ofToml text = .ok settings) :
    loadSettings FileTree.disk options tree = (.ok (options.retitle settings), tree) := by
  simp only [loadSettings, Settings.load, config, FileTree.disk, bind, StateT.bind, read, decoded]
  rfl

theorem load_template_cases (tree : FileTree) (path : String) :
    (∃ fault, loadTemplate FileTree.disk path tree = (.error fault, tree)) ∨
      ∃ template, loadTemplate FileTree.disk path tree = (.ok template, tree) := by
  cases read : tree.read path with
  | error fault => exact Or.inl ⟨_, load_template_unread tree path fault read⟩
  | ok text =>
      cases decoded : Template.ofText text with
      | error fault => exact Or.inl ⟨_, load_template_malformed tree path text fault read decoded⟩
      | ok template => exact Or.inr ⟨_, load_template_read tree path text template read decoded⟩

theorem refused_or_accepted (tree : FileTree) (arguments : List String) :
    Refused tree arguments ∨ ∃ options template settings, Accepted tree arguments options template settings := by
  cases given : DocsOptions.ofArguments arguments with
  | error fault => exact Or.inl (.arguments fault given)
  | ok options =>
  cases read : tree.read options.model with
  | error fault => exact Or.inl (.noTemplate options fault given read)
  | ok text =>
  cases decoded : Template.ofText text with
  | error fault => exact Or.inl (.badTemplate options text fault given read decoded)
  | ok template =>
  cases config : options.config with
  | none => exact Or.inr ⟨options, template, .initial, given, ⟨text, read, decoded⟩, Or.inl ⟨config, rfl⟩⟩
  | some path =>
  cases stored : tree.read path with
  | error fault => exact Or.inl (.noSettings options path fault given config stored)
  | ok toml =>
  cases parsed : Settings.ofToml toml with
  | error fault => exact Or.inl (.badSettings options path toml fault given config stored parsed)
  | ok settings =>
    exact Or.inr ⟨options, template, settings, given, ⟨text, read, decoded⟩,
      Or.inr ⟨path, toml, config, stored, parsed⟩⟩

theorem run_template_fault (tree : FileTree) (arguments : List String) (options : DocsOptions)
    (fault : CommandFault) (given : DocsOptions.ofArguments arguments = .ok options)
    (loaded : loadTemplate FileTree.disk options.model tree = (.error fault, tree)) :
    run FileTree.disk arguments tree = (.failed "" fault, tree) := by
  simp only [run, given, bind, StateT.bind, loaded]
  rfl

-- A template that fails is reported before settings that would fail as well.
theorem run_settings_fault (tree : FileTree) (arguments : List String) (options : DocsOptions)
    (fault : CommandFault) (given : DocsOptions.ofArguments arguments = .ok options)
    (failed : loadSettings FileTree.disk options tree = (.error fault, tree)) :
    ∃ fault, run FileTree.disk arguments tree = (.failed "" fault, tree) := by
  rcases load_template_cases tree options.model with ⟨earlier, loaded⟩ | ⟨template, loaded⟩
  · exact ⟨earlier, run_template_fault tree arguments options earlier given loaded⟩
  · refine ⟨fault, ?_⟩
    simp only [run, given, bind, StateT.bind, loaded, failed]
    rfl

theorem run_refused (tree : FileTree) (arguments : List String) (refused : Refused tree arguments) :
    ∃ fault, run FileTree.disk arguments tree = (.failed "" fault, tree) := by
  cases refused with
  | arguments fault given =>
      refine ⟨.arguments fault, ?_⟩
      simp only [run, given]
      rfl
  | noTemplate options fault given read =>
      exact ⟨_, run_template_fault tree arguments options _ given (load_template_unread _ _ fault read)⟩
  | badTemplate options text fault given read decoded =>
      exact ⟨_, run_template_fault tree arguments options _ given
        (load_template_malformed _ _ text fault read decoded)⟩
  | noSettings options path fault given config read =>
      exact run_settings_fault tree arguments options _ given
        (load_settings_unread _ _ path fault config read)
  | badSettings options path text fault given config read decoded =>
      exact run_settings_fault tree arguments options _ given
        (load_settings_malformed _ _ path text fault config read decoded)

theorem rendered_retitled (options : DocsOptions) (template : Template) (settings : Settings) :
    rendered options.format (template.document (options.retitle settings)) =
      content options template settings := by
  unfold rendered content DocsOptions.retitle
  cases options.format <;> cases options.title <;> rfl

namespace Accepted

variable {tree : FileTree} {arguments : List String} {options : DocsOptions} {template : Template}
  {settings : Settings}

theorem template_loaded (accepted : Accepted tree arguments options template settings) :
    loadTemplate FileTree.disk options.model tree = (.ok template, tree) := by
  obtain ⟨text, read, decoded⟩ := accepted.template
  exact load_template_read tree options.model text template read decoded

theorem settings_loaded (accepted : Accepted tree arguments options template settings) :
    loadSettings FileTree.disk options tree = (.ok (options.retitle settings), tree) := by
  rcases accepted.settings with ⟨config, rfl⟩ | ⟨path, text, config, read, decoded⟩
  · exact load_settings_initial tree options config
  · exact load_settings_read tree options path text settings config read decoded

theorem run_printed (accepted : Accepted tree arguments options template settings)
    (output : options.output = none) : ∃ errors,
    run FileTree.disk arguments tree = (⟨true, content options template settings, errors⟩, tree) := by
  refine ⟨noticeText (template.document (options.retitle settings)).notices, ?_⟩
  simp only [run, accepted.given, bind, StateT.bind, accepted.template_loaded, accepted.settings_loaded,
    output, rendered_retitled]
  rfl

theorem run_written (accepted : Accepted tree arguments options template settings) (path : String)
    (output : options.output = some path) (result : Except CommandFault Unit) (after : FileTree)
    (ended : writeOutput FileTree.disk path (content options template settings) tree = (result, after)) :
    (run FileTree.disk arguments tree).1.success = result.isOk ∧
      (run FileTree.disk arguments tree).1.output = "" ∧ (run FileTree.disk arguments tree).2 = after := by
  simp only [run, accepted.given, bind, StateT.bind, accepted.template_loaded, accepted.settings_loaded,
    output, rendered_retitled, ended]
  cases result <;> exact ⟨rfl, rfl, rfl⟩

end Accepted

theorem disk_write (tree after : FileTree) (path text : String) (done : Bool)
    (written : tree.write path text = (after, done)) :
    FileTree.disk.write path text tree = (done, after) :=
  congrArg Prod.swap written

theorem disk_create_folders (tree after : FileTree) (path : String) (done : Bool)
    (created : tree.createFolders path = (after, done)) :
    FileTree.disk.createFolders path tree = (done, after) :=
  congrArg Prod.swap created

theorem write_output_bare (tree after : FileTree) (path text : String) (done : Bool)
    (bare : (Path.parent? path).getD "" = "") (written : tree.write path text = (after, done)) :
    writeOutput FileTree.disk path text tree = (if done then .ok () else .error (.write path), after) := by
  simp only [writeOutput, bare, if_true, pure_bind, Bool.not_true, Bool.false_eq_true, if_false]
  simp only [bind, StateT.bind, disk_write tree after path text done written]
  cases done <;> rfl

theorem write_output_created (tree middle after : FileTree) (path parent text : String) (done : Bool)
    (found : Path.parent? path = some parent) (some : parent ≠ "")
    (created : tree.createFolders parent = (middle, true)) (written : middle.write path text = (after, done)) :
    writeOutput FileTree.disk path text tree = (if done then .ok () else .error (.write path), after) := by
  simp only [writeOutput, bind, StateT.bind, found, Option.getD_some, some, if_false, Bool.not_true,
    Bool.false_eq_true, disk_create_folders tree middle parent true created,
    disk_write middle after path text done written]
  cases done <;> rfl

theorem write_output_uncreated (tree middle : FileTree) (path parent text : String)
    (found : Path.parent? path = some parent) (some : parent ≠ "")
    (failed : tree.createFolders parent = (middle, false)) :
    writeOutput FileTree.disk path text tree = (.error (.create parent), middle) := by
  simp only [writeOutput, bind, StateT.bind, found, Option.getD_some, some, if_false,
    disk_create_folders tree middle parent false failed]
  rfl

-- Folders on the way of a path may have been made, and still no text can be written there.
def Barred (tree after : FileTree) (path text : String) : Prop :=
  tree.Prepared after path ∧ after.write path text = (after, false)

def Attempted (tree : FileTree) (path text : String) (result : Except CommandFault Unit × FileTree) : Prop :=
  (result.1 = .ok () ∧ tree.Wrote result.2 path text) ∨
    ∃ fault, result.1 = .error fault ∧ Barred tree result.2 path text

theorem attempted_of_write (tree middle : FileTree) (path text : String)
    (prepared : tree.Prepared middle path)
    (ends : ∀ after done, middle.write path text = (after, done) →
      writeOutput FileTree.disk path text tree = (if done then .ok () else .error (.write path), after)) :
    Attempted tree path text (writeOutput FileTree.disk path text tree) := by
  rcases middle.write_cases path text with failed | ⟨location, found, noFolder, wrote⟩
  · rw [ends _ _ failed]
    exact Or.inr ⟨_, rfl, prepared, failed⟩
  · rw [ends _ _ wrote]
    exact Or.inl ⟨rfl, FileTree.put_wrote tree middle path text location prepared found noFolder⟩

theorem write_output_attempted (tree : FileTree) (path text : String) :
    Attempted tree path text (writeOutput FileTree.disk path text tree) := by
  by_cases bare : (Path.parent? path).getD "" = ""
  · exact attempted_of_write tree tree path text (tree.prepared_refl path) fun after done =>
      write_output_bare tree after path text done bare
  cases found : Path.parent? path with
  | none => exact absurd (by rw [found]; rfl) bare
  | some parent =>
      have some : parent ≠ "" := by rwa [found] at bare
      have prepared := tree.parent_prepared path parent found some
      have blocked := tree.parent_blocked path parent text found some
      cases made : tree.createFolders parent with
      | mk middle created =>
          rw [made] at prepared blocked
          cases created with
          | false =>
              rw [write_output_uncreated tree middle path parent text found some made]
              exact Or.inr ⟨_, rfl, prepared, blocked rfl⟩
          | true =>
              exact attempted_of_write tree middle path text prepared fun after done =>
                write_output_created tree middle after path parent text done found some made

structure Footprint (tree : FileTree) (arguments : List String) (outcome : Outcome) (after : FileTree) :
    Prop where
  settled : Refused tree arguments ∨
    ∃ options template settings, Accepted tree arguments options template settings
  refused : Refused tree arguments → outcome.success = false ∧ outcome.output = "" ∧ after = tree
  printed : ∀ options template settings, Accepted tree arguments options template settings →
    options.output = none →
      outcome.success = true ∧ outcome.output = content options template settings ∧ after = tree
  saved : ∀ options template settings path, Accepted tree arguments options template settings →
    options.output = some path → outcome.success = true →
      outcome.output = "" ∧ tree.Wrote after path (content options template settings)
  unsaved : ∀ options template settings path, Accepted tree arguments options template settings →
    options.output = some path → outcome.success = false →
      outcome.output = "" ∧ Barred tree after path (content options template settings)

theorem run_output_cases (tree : FileTree) (arguments : List String) (options : DocsOptions)
    (template : Template) (settings : Settings) (path : String)
    (accepted : Accepted tree arguments options template settings) (output : options.output = some path) :
    (run FileTree.disk arguments tree).1.output = "" ∧
    (((run FileTree.disk arguments tree).1.success = true ∧
        tree.Wrote (run FileTree.disk arguments tree).2 path (content options template settings)) ∨
      ((run FileTree.disk arguments tree).1.success = false ∧
        Barred tree (run FileTree.disk arguments tree).2 path (content options template settings))) := by
  have attempted := write_output_attempted tree path (content options template settings)
  cases ended : writeOutput FileTree.disk path (content options template settings) tree with
  | mk result after =>
      obtain ⟨success, silent, left⟩ := accepted.run_written path output result after ended
      rw [ended] at attempted
      rw [success, left]
      rcases attempted with ⟨rfl, wrote⟩ | ⟨fault, rfl, barred⟩
      · exact ⟨silent, Or.inl ⟨rfl, wrote⟩⟩
      · exact ⟨silent, Or.inr ⟨rfl, barred⟩⟩

theorem run_touches_output_only (tree : FileTree) (arguments : List String) :
    Footprint tree arguments (runCommand FileTree.disk ("docs" :: arguments) tree).1
      (runCommand FileTree.disk ("docs" :: arguments) tree).2 := by
  change Footprint tree arguments (run FileTree.disk arguments tree).1 (run FileTree.disk arguments tree).2
  refine ⟨refused_or_accepted tree arguments, ?_, ?_, ?_, ?_⟩
  · intro refused
    obtain ⟨fault, ran⟩ := run_refused tree arguments refused
    rw [ran]
    exact ⟨rfl, rfl, rfl⟩
  · intro options template settings accepted output
    obtain ⟨errors, ran⟩ := accepted.run_printed output
    rw [ran]
    exact ⟨rfl, rfl, rfl⟩
  · intro options template settings path accepted output success
    obtain ⟨silent, ⟨_, wrote⟩ | ⟨failure, _⟩⟩ :=
      run_output_cases tree arguments options template settings path accepted output
    · exact ⟨silent, wrote⟩
    · exact absurd (failure.symm.trans success) Bool.false_ne_true
  · intro options template settings path accepted output failure
    obtain ⟨silent, ⟨success, _⟩ | ⟨_, barred⟩⟩ :=
      run_output_cases tree arguments options template settings path accepted output
    · exact absurd (failure.symm.trans success) Bool.false_ne_true
    · exact ⟨silent, barred⟩

def draft : FileTree := ⟨[(["m"], .text "\x7b\x7d")], []⟩

theorem draft_saved_in_new_folder :
    (∃ options template settings, Accepted draft ["m", "-o", "a/b"] options template settings ∧
      (runCommand FileTree.disk ["docs", "m", "-o", "a/b"] draft).1.output = "" ∧
      draft.Wrote (runCommand FileTree.disk ["docs", "m", "-o", "a/b"] draft).2 "a/b"
        (content options template settings)) ∧
    Refused draft ["n", "-o", "a/b"] ∧ (runCommand FileTree.disk ["docs", "n", "-o", "a/b"] draft).2 = draft := by
  constructor
  · have success : (runCommand FileTree.disk ["docs", "m", "-o", "a/b"] draft).1.success = true := by
      decide +kernel
    have footprint := run_touches_output_only draft ["m", "-o", "a/b"]
    rcases footprint.settled with refused | ⟨options, template, settings, accepted⟩
    · rw [(footprint.refused refused).1] at success
      cases success
    · have given : DocsOptions.ofArguments ["m", "-o", "a/b"] = .ok ⟨"m", none, some "a/b", .markdown, none⟩ :=
        rfl
      obtain rfl := Except.ok.inj (given.symm.trans accepted.given)
      exact ⟨_, template, settings, accepted,
        footprint.saved _ template settings "a/b" accepted rfl success⟩
  · have refused : Refused draft ["n", "-o", "a/b"] :=
      .noTemplate ⟨"n", none, some "a/b", .markdown, none⟩ .notFound rfl rfl
    exact ⟨refused, ((run_touches_output_only draft ["n", "-o", "a/b"]).refused refused).2.2⟩

end TemplateManual.Docs
