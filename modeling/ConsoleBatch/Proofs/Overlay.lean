import ConsoleBatch.Config.Save
import ConsoleBatch.Proofs.Conformance
import ConsoleBatch.Proofs.Readable

/-! A loaded configuration is the built-in one, overlaid by the document.

Every setting has a path of names. What a document has at that path is the setting, and where it has
nothing the built-in setting stands, whatever else the document says. -/

namespace ConsoleBatch

namespace Lint

open Text

/-- A text is a name of the check: blanks around it do not count, nor does the case of its letters,
and a hyphen stands for an underscore. -/
def Check.NamedBy (check : Check) (text : String) : Prop :=
  ((trim text.toList).map fun c => if c = '-' then '_' else c).map Char.toLower =
    check.name.toList.map Char.toLower

theorem Check.eq_of_lowered_names {check other : Check}
    (same : check.name.toList.map Char.toLower = other.name.toList.map Char.toLower) :
    check = other := by
  cases check <;> cases other <;> first | rfl | exact absurd same (by decide)

theorem Check.ofName?_eq_some_iff {text : String} {check : Check} :
    Check.ofName? text = some check ↔ check.NamedBy text := by
  unfold Check.ofName? sameIgnoringAsciiCase
  dsimp only
  constructor
  · intro found
    have same := List.find?_some found
    exact (beq_iff_eq.mp same).symm
  · intro named
    cases found : Check.all.find? _ with
    | none =>
      have listed : check ∈ Check.all := by cases check <;> decide
      exact absurd (beq_iff_eq.mpr named.symm) (List.find?_eq_none.mp found check listed)
    | some other =>
      have same := List.find?_some found
      rw [Check.eq_of_lowered_names ((beq_iff_eq.mp same).trans named)]

inductive Picks : List String → List Check → Prop
  | nil : Picks [] []
  | known {text : String} {check : Check} {texts : List String} {checks : List Check}
      (named : check.NamedBy text) (rest : Picks texts checks) :
      Picks (text :: texts) (check :: checks)
  | unknown {text : String} {texts : List String} {checks : List Check}
      (unnamed : ∀ check : Check, ¬ check.NamedBy text) (rest : Picks texts checks) :
      Picks (text :: texts) checks

theorem picks_ofName? (texts : List String) : Picks texts (texts.filterMap Check.ofName?) := by
  induction texts with
  | nil => exact .nil
  | cons text rest ih =>
    rw [List.filterMap_cons]
    cases found : Check.ofName? text with
    | none =>
      refine .unknown (fun check named => ?_) ih
      rw [Check.ofName?_eq_some_iff.mpr named] at found
      cases found
    | some check => exact .known (Check.ofName?_eq_some_iff.mp found) ih

end Lint

namespace Json.Value

def at? (value : Value) : List String → Option Value
  | [] => some value
  | name :: path => (value.member? name).bind (·.at? path)

end Json.Value

namespace Config

open Json (Ascending Readable Value)

/-- A setting is what the document says at a path, or the default where it says nothing. -/
def Taken {α : Type} (document : Value) (path : List String) (tells : Value → α → Prop)
    (default actual : α) : Prop :=
  match document.at? path with
  | some value => tells value actual
  | none => actual = default

def Writes {α : Type} (encode : α → Value) (value : Value) (actual : α) : Prop :=
  value = encode actual

def writesBudget (value : Value) (budget : Nat) : Prop :=
  value = .natural budget ∧ budget < Json.wordLimit

def writesOrder (value : Value) (checks : List Lint.Check) : Prop :=
  ∃ texts, value = .strings texts ∧ Lint.Picks texts checks

theorem at?_part (value : Value) (name next : String) (path : List String) :
    (part value name).at? (next :: path) = value.at? (name :: next :: path) := by
  unfold part
  rw [Value.at?, Value.at?]
  cases value.member? name <;> rfl

theorem taken_part {α : Type} {value : Value} {name next : String} {path : List String}
    {tells : Value → α → Prop} {default actual : α}
    (taken : Taken (part value name) (next :: path) tells default actual) :
    Taken value (name :: next :: path) tells default actual := by
  rw [Taken, at?_part] at taken
  exact taken

theorem mem_of_member? {members : List (String × Value)} {name : String} {inner : Value}
    (present : (Value.object members).member? name = some inner) : (name, inner) ∈ members := by
  obtain ⟨front, back, split, _⟩ := List.lookup_eq_some_iff.mp present
  rw [split]
  exact List.mem_append_right front List.mem_cons_self

theorem conforms_member {fields : List (String × Schema)} {value inner : Value} {name : String}
    {schema : Schema} (conforms : Conforms (.record fields) value)
    (known : fields.lookup name = some schema) (present : value.member? name = some inner) :
    Conforms schema inner := by
  cases conforms with
  | record _ each => exact each (name, inner) (mem_of_member? present) schema known

theorem conforms_part {fields : List (String × Schema)} {schema : Schema} {value : Value}
    {name : String} (conforms : Conforms (.record fields) value)
    (known : fields.lookup name = some schema) (empty : Conforms schema (.object [])) :
    Conforms schema (part value name) := by
  unfold part
  cases present : value.member? name with
  | none => exact empty
  | some inner => exact conforms_member conforms known present

theorem conforms_record_nil (fields : List (String × Schema)) :
    Conforms (.record fields) (.object []) :=
  .record (List.forall_mem_nil _) (List.forall_mem_nil _)

theorem conforms_entry {schema : Schema} {value inner : Value} {name : String}
    (conforms : Conforms (.dictionary schema) value) (present : value.member? name = some inner) :
    Conforms schema inner := by
  cases conforms with
  | dictionary each => exact each (name, inner) (mem_of_member? present)

theorem at?_single (value : Value) (name : String) : value.at? [name] = value.member? name := by
  rw [Value.at?]
  cases value.member? name <;> rfl

theorem taken_field {α : Type} {value : Value} {name : String} {tells : Value → α → Prop}
    {read : Value → Option α} {default : α}
    (reads : ∀ inner, value.member? name = some inner →
      ∃ actual, read inner = some actual ∧ tells inner actual) :
    Taken value [name] tells default (field value name read default) := by
  unfold Taken field
  rw [at?_single]
  cases present : value.member? name with
  | none => rfl
  | some inner =>
    obtain ⟨actual, read, tells⟩ := reads inner present
    dsimp only
    rw [Option.bind_some, read]
    exact tells

theorem readable_member {value inner : Value} {name : String} (readable : Readable value)
    (present : value.member? name = some inner) : Readable inner := by
  cases readable with
  | object _ each => exact each (name, inner) (mem_of_member? present)
  | _ => cases present

theorem readable_part {value : Value} (readable : Readable value) (name : String) :
    Readable (part value name) := by
  unfold part
  cases present : value.member? name with
  | none => exact .object List.Pairwise.nil (List.forall_mem_nil _)
  | some inner => exact readable_member readable present

section

variable {value : Value}

theorem string?_conforms (conforms : Conforms .string value) :
    ∃ text, value.string? = some text ∧ Writes .string value text := by
  cases conforms with
  | string text => exact ⟨text, rfl, rfl⟩

theorem string?_nonempty (conforms : Conforms .nonemptyString value) :
    ∃ text, value.string? = some text ∧ Writes .string value text := by
  cases conforms with
  | @nonempty text => exact ⟨text, rfl, rfl⟩

theorem bool?_conforms (conforms : Conforms .boolean value) :
    ∃ flag, value.bool? = some flag ∧ Writes .bool value flag := by
  cases conforms with
  | boolean flag => exact ⟨flag, rfl, rfl⟩

theorem strings?_conforms (conforms : Conforms (.list .string) value) :
    ∃ texts, value.strings? = some texts ∧ Writes .strings value texts := by
  cases conforms with
  | @list _ items each =>
    refine ⟨_, rfl, congrArg Value.array ?_⟩
    induction items with
    | nil => rfl
    | cons item rest ih =>
      obtain ⟨first, others⟩ := List.forall_mem_cons.mp each
      cases first with
      | string text => exact congrArg (Value.string text :: ·) (ih others)

theorem taken_flag {fields : List (String × Schema)} {name : String} {default : Bool}
    (conforms : Conforms (.record fields) value) (known : fields.lookup name = some .boolean) :
    Taken value [name] (Writes .bool) default (field value name Value.bool? default) :=
  taken_field fun _ present => bool?_conforms (conforms_member conforms known present)

theorem taken_strings {fields : List (String × Schema)} {name : String} {default : List String}
    (conforms : Conforms (.record fields) value)
    (known : fields.lookup name = some (.list .string)) :
    Taken value [name] (Writes .strings) default (field value name Value.strings? default) :=
  taken_field fun _ present => strings?_conforms (conforms_member conforms known present)

theorem lintOrder?_conforms (conforms : Conforms (.list .string) value) :
    ∃ checks, lintOrder? value = some checks ∧ writesOrder value checks := by
  obtain ⟨texts, read, writes⟩ := strings?_conforms conforms
  refine ⟨_, ?_, texts, writes, Lint.picks_ofName? texts⟩
  rw [lintOrder?, read]
  rfl

theorem timerMode?_conforms (conforms : Conforms (.choice ["ticks", "realtime"]) value) :
    ∃ mode, timerMode? value = some mode ∧ Writes (.string ·.name) value mode := by
  cases conforms with
  | option listed =>
    rcases List.mem_cons.mp listed with rfl | second
    · exact ⟨.ticks, rfl, rfl⟩
    · rw [List.mem_singleton.mp second]
      exact ⟨.realtime, rfl, rfl⟩

theorem timeoutPolicy?_conforms
    (conforms : Conforms (.choice ["SKIP_LINTER", "CANCEL_EXECUTION"]) value) :
    ∃ policy, timeoutPolicy? value = some policy ∧ Writes (.string ·.name) value policy := by
  cases conforms with
  | option listed =>
    rcases List.mem_cons.mp listed with rfl | second
    · exact ⟨.skipLinter, rfl, rfl⟩
    · rw [List.mem_singleton.mp second]
      exact ⟨.cancelExecution, rfl, rfl⟩

end

section

variable {value : Value}

theorem mem_stringMembers?_iff (readable : Readable value) {name text : String} :
    (name, text) ∈ value.stringMembers?.getD [] ↔ value.member? name = some (.string text) := by
  cases readable with
  | object ascending each =>
    change (name, text) ∈ List.filterMap _ _ ↔ List.lookup _ _ = _
    rw [Json.lookup_eq_some_iff ascending.distinct, List.mem_filterMap]
    constructor
    · rintro ⟨⟨other, inner⟩, listed, same⟩
      cases inner <;> cases same
      exact listed
    · intro listed
      exact ⟨_, listed, rfl⟩
  | _ => simp [Value.stringMembers?, Value.member?]

theorem ascending_stringMembers? (readable : Readable value) :
    Ascending (value.stringMembers?.getD []) := by
  cases readable with
  | object ascending each =>
    refine List.Pairwise.filterMap _ ?_ ascending
    rintro ⟨name, inner⟩ ⟨other, inner'⟩ before _ same _ same'
    cases inner <;> cases same
    cases inner' <;> cases same'
    exact before
  | _ => exact List.Pairwise.nil

theorem mem_templates_iff (readable : Readable value) {name template : String} :
    (name, template) ∈ (messagesOf value).templates ↔
      name ≠ "prefix" ∧ value.member? name = some (.string template) := by
  rw [messagesOf, List.mem_filter, mem_stringMembers?_iff readable, bne_iff_ne, and_comm]

theorem ascending_templates (readable : Readable value) :
    Ascending (messagesOf value).templates :=
  (ascending_stringMembers? readable).filter _

end

def Follows {α : Type} (config : Config) (document : Value) (path : List String)
    (tells : Value → α → Prop) (setting : Config → α) : Prop :=
  Taken document path tells (setting {}) (setting config)

/-- The configuration is the built-in one, overlaid by a document. -/
structure Overlays (config : Config) (document : Value) : Prop where
  batchFolder : Follows config document ["settings", "batch-folder"]
    (Writes .string) (·.settings.batchFolder)
  fileExtension : Follows config document ["settings", "file-extension"]
    (Writes .string) (·.settings.fileExtension)
  timerMode : Follows config document ["settings", "timer-mode"]
    (Writes (.string ·.name)) (·.settings.timerMode)
  removeDangerousCommands : Follows config document ["security", "remove-dangerous-commands"]
    (Writes .bool) (·.security.removeDangerousCommands)
  commandBlacklist : Follows config document ["security", "command-blacklist"]
    (Writes .strings) (·.security.commandBlacklist)
  opening : Follows config document ["messages", "prefix"] (Writes .string) (·.messages.opening)
  /-- All other messages of the document are templates, in the order of their names. -/
  templates : Ascending config.messages.templates ∧
    ∀ name template, (name, template) ∈ config.messages.templates ↔
      name ≠ "prefix" ∧ document.at? ["messages", name] = some (.string template)
  enabled : Follows config document ["linter", "enabled"] (Writes .bool) (·.linter.enabled)
  warnInvalidSyntax : Follows config document ["linter", "rules", "warn-invalid-syntax"]
    (Writes .bool) (·.linter.rules.warnInvalidSyntax)
  warnUnknownMeta : Follows config document ["linter", "rules", "warn-unknown-meta"]
    (Writes .bool) (·.linter.rules.warnUnknownMeta)
  warnOnBlacklisted : Follows config document ["linter", "rules", "warn-on-blacklisted"]
    (Writes .bool) (·.linter.rules.warnOnBlacklisted)
  checkCommandExistence : Follows config document ["linter", "rules", "check-command-existence"]
    (Writes .bool) (·.linter.rules.checkCommandExistence)
  suggestAlternatives : Follows config document ["linter", "rules", "suggest-alternatives"]
    (Writes .bool) (·.linter.rules.suggestAlternatives)
  warnEmptyFile : Follows config document ["linter", "rules", "warn-empty-file"]
    (Writes .bool) (·.linter.rules.warnEmptyFile)
  lintOrder : Follows config document ["linter", "execution", "lint-order"]
    writesOrder (·.linter.execution.lintOrder)
  maxLintTime : Follows config document ["linter", "execution", "max-lint-time-ms"]
    writesBudget (·.linter.execution.maxLintTime)
  onTimeout : Follows config document ["linter", "execution", "on-timeout"]
    (Writes (.string ·.name)) (·.linter.execution.onTimeout)
  debugMode : Follows config document ["linter", "execution", "debug-mode"]
    (Writes .bool) (·.linter.execution.debugMode)
  knownCommands : Follows config document ["host", "known-commands"]
    (Writes .strings) (·.host.knownCommands)

section

variable {document : Value}

/-- The budget is left out, or written as a natural number that fits a machine word. -/
def BudgetCounts (document : Value) : Prop :=
  ∀ value, document.at? ["linter", "execution", "max-lint-time-ms"] = some value →
    ∃ budget < Json.wordLimit, value = .natural budget

theorem at?_budget (document : Value) :
    document.at? ["linter", "execution", "max-lint-time-ms"] =
      (part (part document "linter") "execution").member? "max-lint-time-ms" := by
  rw [← at?_part, ← at?_part, at?_single]

theorem fractionalBudget?_eq_none_iff (conforms : Conforms schema document)
    (readable : Readable document) :
    fractionalBudget? document = none ↔ BudgetCounts document := by
  have linter : Conforms linterSchema (part document "linter") :=
    conforms_part conforms rfl (conforms_record_nil _)
  have execution : Conforms executionSchema (part (part document "linter") "execution") :=
    conforms_part linter rfl (conforms_record_nil _)
  unfold fractionalBudget? BudgetCounts
  rw [at?_budget]
  cases present : (part (part document "linter") "execution").member? "max-lint-time-ms" with
  | none => simp
  | some value =>
    have readable_budget : Readable value :=
      readable_member (readable_part (readable_part readable _) _) present
    cases conforms_member execution rfl present with
    | @integer n natural =>
      refine iff_of_true rfl ?_
      rintro _ ⟨⟩
      cases readable_budget with
      | integer _ high =>
        refine ⟨n.toNat, by omega, ?_⟩
        rw [Value.natural, Int.toNat_of_nonneg natural]
    | whole whole natural =>
      refine iff_of_false (Option.some_ne_none _) ?_
      intro counts
      obtain ⟨_, _, same⟩ := counts _ rfl
      cases same

theorem overlays_ofValue (conforms : Conforms schema document) (readable : Readable document)
    (counts : BudgetCounts document) : Overlays (ofValue document) document := by
  have settings : Conforms settingsSchema (part document "settings") :=
    conforms_part conforms rfl (conforms_record_nil _)
  have security : Conforms securitySchema (part document "security") :=
    conforms_part conforms rfl (conforms_record_nil _)
  have messages : Conforms (.dictionary .string) (part document "messages") :=
    conforms_part conforms rfl (.dictionary (List.forall_mem_nil _))
  have linter : Conforms linterSchema (part document "linter") :=
    conforms_part conforms rfl (conforms_record_nil _)
  have host : Conforms (.record [("known-commands", .list .string)]) (part document "host") :=
    conforms_part conforms rfl (conforms_record_nil _)
  have rules : Conforms rulesSchema (part (part document "linter") "rules") :=
    conforms_part linter rfl (conforms_record_nil _)
  have execution : Conforms executionSchema (part (part document "linter") "execution") :=
    conforms_part linter rfl (conforms_record_nil _)
  constructor
  case batchFolder =>
    exact taken_part (taken_field fun _ present =>
      string?_nonempty (conforms_member settings rfl present))
  case fileExtension =>
    exact taken_part (taken_field fun _ present =>
      string?_conforms (conforms_member settings rfl present))
  case timerMode =>
    exact taken_part (taken_field fun _ present =>
      timerMode?_conforms (conforms_member settings rfl present))
  case removeDangerousCommands => exact taken_part (taken_flag security rfl)
  case commandBlacklist => exact taken_part (taken_strings security rfl)
  case opening =>
    exact taken_part (taken_field fun _ present =>
      string?_conforms (conforms_entry messages present))
  case templates =>
    have part_readable := readable_part readable "messages"
    refine ⟨ascending_templates part_readable, fun name template => ?_⟩
    rw [← at?_part, at?_single]
    exact mem_templates_iff part_readable
  case enabled => exact taken_part (taken_flag linter rfl)
  case warnInvalidSyntax => exact taken_part (taken_part (taken_flag rules rfl))
  case warnUnknownMeta => exact taken_part (taken_part (taken_flag rules rfl))
  case warnOnBlacklisted => exact taken_part (taken_part (taken_flag rules rfl))
  case checkCommandExistence => exact taken_part (taken_part (taken_flag rules rfl))
  case suggestAlternatives => exact taken_part (taken_part (taken_flag rules rfl))
  case warnEmptyFile => exact taken_part (taken_part (taken_flag rules rfl))
  case lintOrder =>
    exact taken_part (taken_part (taken_field fun _ present =>
      lintOrder?_conforms (conforms_member execution rfl present)))
  case maxLintTime =>
    refine taken_part (taken_part (taken_field fun inner present => ?_))
    obtain ⟨budget, fits, rfl⟩ := counts inner ((at?_budget document).trans present)
    exact ⟨budget, rfl, rfl, fits⟩
  case onTimeout =>
    exact taken_part (taken_part (taken_field fun _ present =>
      timeoutPolicy?_conforms (conforms_member execution rfl present)))
  case debugMode => exact taken_part (taken_part (taken_flag execution rfl))
  case knownCommands => exact taken_part (taken_strings host rfl)

/-- A document is accepted exactly if it keeps the schema and its lint budget counts. -/
theorem check_eq_ok_iff (readable : Readable document) {config : Config} :
    check document = .ok config ↔
      Conforms schema document ∧ BudgetCounts document ∧ ofValue document = config := by
  rw [← fault?_eq_none_iff]
  unfold check
  cases faulty : fault? schema document with
  | some fault => simp
  | none =>
    have conforms := (fault?_eq_none_iff _ _).mp faulty
    rw [← fractionalBudget?_eq_none_iff conforms readable]
    cases fractionalBudget? document <;> simp

theorem load_eq_ok {text : String} {config : Config} (loads : load text = .ok config) :
    ∃ document, Json.read? text = some document ∧ check document = .ok config := by
  unfold load at loads
  split at loads
  · cases loads
  · rename_i document reads
    exact ⟨document, reads, loads⟩

/-- Reading a document that breaks the schema gives no configuration, and reading one that keeps it
does exactly if the lint budget counts. Then every setting is what the document says at its path, or
the built-in one. -/
theorem load_overlays (text : String) (document : Value) (reads : Json.read? text = some document) :
    (¬ Conforms schema document → ∃ fault, load text = .error (.invalid fault)) ∧
    (Conforms schema document →
      ((∃ config, load text = .ok config) ↔ BudgetCounts document) ∧
      ∀ config, load text = .ok config → Overlays config document) := by
  have readable := Json.readable_of_read? reads
  have loads : load text = check document := by
    rw [load, reads]
  rw [loads]
  refine ⟨?_, fun conforms => ⟨?_, ?_⟩⟩
  · intro breaks
    unfold check
    cases faulty : fault? schema document with
    | none => exact absurd ((fault?_eq_none_iff _ _).mp faulty) breaks
    | some fault => exact ⟨fault, rfl⟩
  · constructor
    · rintro ⟨config, accepted⟩
      exact ((check_eq_ok_iff readable).mp accepted).2.1
    · intro counts
      exact ⟨_, (check_eq_ok_iff readable).mpr ⟨conforms, counts, rfl⟩⟩
  · intro config accepted
    obtain ⟨_, counts, rfl⟩ := (check_eq_ok_iff readable).mp accepted
    exact overlays_ofValue conforms readable counts

def quietText : String :=
  "\x7b\"linter\": \x7b\"execution\": \x7b\"max-lint-time-ms\": 250, " ++
    "\"lint-order\": [\" existence\", \"spelling\", \"Meta-Syntax\"]\x7d\x7d, " ++
    "\"messages\": \x7b\"success\": \"\", \"prefix\": \"> \"\x7d\x7d // quiet"

def quietConfig : Config where
  messages := { opening := "> ", templates := [("success", "")] }
  linter.execution := { lintOrder := [.existence, .metaSyntax], maxLintTime := 250 }

theorem load_quietText : load quietText = .ok quietConfig := by
  have found : (load quietText).toOption = some quietConfig := by decide +kernel
  cases loads : load quietText with
  | error error =>
    rw [loads] at found
    cases found
  | ok config =>
    rw [loads] at found
    exact congrArg Except.ok (Option.some.inj found)

theorem load_overlays_quiet :
    ∃ document, Json.read? quietText = some document ∧ Conforms schema document ∧
      BudgetCounts document ∧ Overlays quietConfig document := by
  obtain ⟨document, reads, _⟩ := load_eq_ok load_quietText
  obtain ⟨refused, taken⟩ := load_overlays quietText document reads
  have conforms : Conforms schema document := by
    apply Classical.byContradiction
    intro breaks
    obtain ⟨fault, error⟩ := refused breaks
    rw [load_quietText] at error
    cases error
  obtain ⟨succeeds, overlays⟩ := taken conforms
  exact ⟨document, reads, conforms, succeeds.mp ⟨quietConfig, load_quietText⟩,
    overlays quietConfig load_quietText⟩

end

end Config

end ConsoleBatch
