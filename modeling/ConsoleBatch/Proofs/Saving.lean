import ConsoleBatch.Proofs.Overlay
import ConsoleBatch.Proofs.RoundTrip

/-! A configuration that was loaded can be saved and loaded again.

Loading keeps some values out of a configuration, and all others are written as what they are read
from. So the text of a loaded configuration describes that configuration and no other. -/

namespace ConsoleBatch.Config

open Json (Ascending Plain Readable Value)

/-- What holds of all configurations that are loaded, and not of all others. -/
structure Savable (config : Config) : Prop where
  batchFolder : config.settings.batchFolder ≠ ""
  maxLintTime : config.linter.execution.maxLintTime < Json.wordLimit
  ascending : Ascending config.messages.templates
  unprefixed : ∀ member ∈ config.messages.templates, member.1 ≠ "prefix"

theorem batchFolder_ne_empty {document : Value} (conforms : Conforms schema document) :
    (ofValue document).settings.batchFolder ≠ "" := by
  have settings : Conforms settingsSchema (part document "settings") :=
    conforms_part conforms rfl (conforms_record_nil _)
  have taken : (ofValue document).settings.batchFolder =
      field (part document "settings") "batch-folder" Value.string? "batches" := rfl
  rw [taken, field]
  cases present : (part document "settings").member? "batch-folder" with
  | none => decide
  | some value =>
    cases conforms_member settings rfl present with
    | nonempty some_text => exact some_text

theorem savable_of_check {document : Value} (readable : Readable document) {config : Config}
    (accepted : check document = .ok config) : config.Savable := by
  obtain ⟨conforms, counts, rfl⟩ := (check_eq_ok_iff readable).mp accepted
  have overlays := overlays_ofValue conforms readable counts
  refine ⟨batchFolder_ne_empty conforms, ?_, overlays.templates.1, ?_⟩
  · have budget := overlays.maxLintTime
    unfold Follows Taken at budget
    split at budget
    · exact budget.2
    · exact (congrArg (· < Json.wordLimit) budget).mpr (by decide)
  · rintro ⟨name, template⟩ listed
    exact ((overlays.templates.2 name template).mp listed).1

theorem string_of_mem_members {catalog : Message.Catalog} {member : String × Value}
    (listed : member ∈ catalog.members) : ∃ text, member.2 = .string text := by
  rcases List.mem_cons.mp listed with rfl | template
  · exact ⟨_, rfl⟩
  · obtain ⟨_, _, rfl⟩ := List.mem_map.mp template
    exact ⟨_, rfl⟩

theorem mem_members_iff {catalog : Message.Catalog} {name template : String}
    (other : name ≠ "prefix") :
    (name, .string template) ∈ catalog.members ↔ (name, template) ∈ catalog.templates := by
  constructor
  · intro listed
    rcases List.mem_cons.mp listed with first | among
    · exact absurd (congrArg Prod.fst first) other
    · obtain ⟨⟨_, _⟩, among, same⟩ := List.mem_map.mp among
      cases same
      exact among
  · intro among
    exact List.mem_cons_of_mem _ (List.mem_map.mpr ⟨_, among, rfl⟩)

/-- What holds of the parts of a written configuration, and of objects of such parts, holds of the
whole. -/
theorem write_induction {holds : Value → Prop} {object : List (String × Value) → Value}
    (config : Config) (string : ∀ text, holds (.string text)) (bool : ∀ flag, holds (.bool flag))
    (strings : ∀ texts, holds (.strings texts))
    (budget : holds (.natural config.linter.execution.maxLintTime))
    (build : ∀ members, (∀ member ∈ members, holds member.2) → holds (object members)) :
    holds (config.write object) := by
  apply build
  simp only [List.forall_mem_cons]
  refine ⟨build _ ?_, build _ ?_, build _ ?_, build _ ?_, build _ ?_, List.forall_mem_nil _⟩
  · simp only [List.forall_mem_cons]
    exact ⟨string _, string _, string _, List.forall_mem_nil _⟩
  · simp only [List.forall_mem_cons]
    exact ⟨bool _, strings _, List.forall_mem_nil _⟩
  · intro member listed
    obtain ⟨text, written⟩ := string_of_mem_members listed
    rw [written]
    exact string text
  · simp only [List.forall_mem_cons]
    refine ⟨bool _, build _ ?_, build _ ?_, List.forall_mem_nil _⟩
    · simp only [List.forall_mem_cons]
      exact ⟨bool _, bool _, bool _, bool _, bool _, bool _, List.forall_mem_nil _⟩
    · simp only [List.forall_mem_cons]
      exact ⟨strings _, budget, string _, bool _, List.forall_mem_nil _⟩
  · simp only [List.forall_mem_cons]
    exact ⟨strings _, List.forall_mem_nil _⟩

theorem readable_strings (texts : List String) : Readable (.strings texts) := by
  refine .array fun item listed => ?_
  obtain ⟨text, _, rfl⟩ := List.mem_map.mp listed
  exact .string text

theorem plain_strings (texts : List String) : Plain (.strings texts) := by
  refine .array fun item listed => ?_
  obtain ⟨text, _, rfl⟩ := List.mem_map.mp listed
  exact .string text

theorem readable_ofMembers {members : List (String × Value)}
    (each : ∀ member ∈ members, Readable member.2) : Readable (.ofMembers members) := by
  refine .object (Json.ascending_putMembers members List.Pairwise.nil) fun member put => ?_
  rcases Json.mem_putMembers put with listed | none
  · exact each member listed
  · cases none

theorem conforms_ofMembers {fields : List (String × Schema)} {members : List (String × Value)}
    (each : ∀ member ∈ members, ∃ schema,
      fields.lookup member.1 = some schema ∧ Conforms schema member.2) :
    Conforms (.record fields) (.ofMembers members) := by
  refine conforms_record_iff.mpr fun member put => ?_
  rcases Json.mem_putMembers put with listed | none
  · exact each member listed
  · cases none

theorem conforms_strings (texts : List String) : Conforms (.list .string) (.strings texts) := by
  refine .list fun item listed => ?_
  obtain ⟨text, _, rfl⟩ := List.mem_map.mp listed
  exact .string text

theorem conforms_toValue {config : Config} (savable : config.Savable) :
    Conforms schema config.toValue := by
  have settings : Conforms settingsSchema (config.settings.write .ofMembers) := by
    apply conforms_ofMembers
    simp only [List.forall_mem_cons]
    refine ⟨⟨_, rfl, .nonempty savable.batchFolder⟩, ⟨_, rfl, .string _⟩, ⟨_, rfl, .option ?_⟩,
      List.forall_mem_nil _⟩
    cases config.settings.timerMode <;> decide
  have security : Conforms securitySchema (config.security.write .ofMembers) := by
    apply conforms_ofMembers
    simp only [List.forall_mem_cons]
    exact ⟨⟨_, rfl, .boolean _⟩, ⟨_, rfl, conforms_strings _⟩, List.forall_mem_nil _⟩
  have messages : Conforms (.dictionary .string) (config.messages.write .ofMembers) := by
    refine .dictionary fun member put => ?_
    rcases Json.mem_putMembers put with listed | none
    · obtain ⟨text, written⟩ := string_of_mem_members listed
      rw [written]
      exact .string text
    · cases none
  have rules : Conforms rulesSchema (config.linter.rules.write .ofMembers) := by
    apply conforms_ofMembers
    simp only [List.forall_mem_cons]
    exact ⟨⟨_, rfl, .boolean _⟩, ⟨_, rfl, .boolean _⟩, ⟨_, rfl, .boolean _⟩, ⟨_, rfl, .boolean _⟩,
      ⟨_, rfl, .boolean _⟩, ⟨_, rfl, .boolean _⟩, List.forall_mem_nil _⟩
  have execution : Conforms executionSchema (config.linter.execution.write .ofMembers) := by
    apply conforms_ofMembers
    simp only [List.forall_mem_cons]
    refine ⟨⟨_, rfl, conforms_strings _⟩, ⟨_, rfl, .integer (Int.natCast_nonneg _)⟩,
      ⟨_, rfl, .option ?_⟩, ⟨_, rfl, .boolean _⟩, List.forall_mem_nil _⟩
    cases config.linter.execution.onTimeout <;> decide
  have linter : Conforms linterSchema (config.linter.write .ofMembers) := by
    apply conforms_ofMembers
    simp only [List.forall_mem_cons]
    exact ⟨⟨_, rfl, .boolean _⟩, ⟨_, rfl, rules⟩, ⟨_, rfl, execution⟩, List.forall_mem_nil _⟩
  have host : Conforms (.record [("known-commands", .list .string)])
      (config.host.write .ofMembers) := by
    apply conforms_ofMembers
    simp only [List.forall_mem_cons]
    exact ⟨⟨_, rfl, conforms_strings _⟩, List.forall_mem_nil _⟩
  apply conforms_ofMembers
  simp only [List.forall_mem_cons]
  exact ⟨⟨_, rfl, settings⟩, ⟨_, rfl, security⟩, ⟨_, rfl, messages⟩, ⟨_, rfl, linter⟩,
    ⟨_, rfl, host⟩, List.forall_mem_nil _⟩

theorem strings?_strings (texts : List String) : (Value.strings texts).strings? = some texts := by
  rw [Value.strings, Value.strings?, List.filterMap_map]
  exact congrArg some List.filterMap_some

theorem ofName?_name (check : Lint.Check) : Lint.Check.ofName? check.name = some check := by
  cases check <;> decide

theorem lintOrder?_names (checks : List Lint.Check) :
    lintOrder? (.strings (checks.map Lint.Check.name)) = some checks := by
  have each : Lint.Check.ofName? ∘ Lint.Check.name = some := funext ofName?_name
  rw [lintOrder?, strings?_strings, Option.map_some, List.filterMap_map, each, List.filterMap_some]

theorem part_ofMembers {members : List (String × Value)} {name : String} {value : Value}
    (found : members.reverse.lookup name = some value) :
    part (.ofMembers members) name = value := by
  rw [part, Json.member?_ofMembers, found]
  rfl

theorem field_ofMembers {α : Type} {members : List (String × Value)} {name : String}
    {value : Value} {read : Value → Option α} {default actual : α}
    (found : members.reverse.lookup name = some value) (reads : read value = some actual) :
    field (.ofMembers members) name read default = actual := by
  rw [field, Json.member?_ofMembers, found, Option.bind_some, reads]
  rfl

theorem settingsOf_write (settings : Settings) :
    settingsOf (settings.write .ofMembers) = settings := by
  have mode : timerMode? (.string settings.timerMode.name) = some settings.timerMode := by
    cases settings.timerMode <;> rfl
  obtain ⟨folder, extension, timerMode⟩ := settings
  rw [settingsOf, Settings.mk.injEq]
  exact ⟨field_ofMembers rfl rfl, field_ofMembers rfl rfl, field_ofMembers rfl mode⟩

theorem securityOf_write (security : Security) :
    securityOf (security.write .ofMembers) = security := by
  obtain ⟨removes, blacklist⟩ := security
  rw [securityOf, Security.mk.injEq]
  exact ⟨field_ofMembers rfl rfl, field_ofMembers rfl (strings?_strings _)⟩

theorem rulesOf_write (rules : LintRules) : rulesOf (rules.write .ofMembers) = rules := by
  obtain ⟨syntaxes, metas, blacklisted, unknown, suggest, empty⟩ := rules
  rw [rulesOf, LintRules.mk.injEq]
  exact ⟨field_ofMembers rfl rfl, field_ofMembers rfl rfl, field_ofMembers rfl rfl,
    field_ofMembers rfl rfl, field_ofMembers rfl rfl, field_ofMembers rfl rfl⟩

theorem executionOf_write (execution : LintExecution) :
    executionOf (execution.write .ofMembers) = execution := by
  have policy : timeoutPolicy? (.string execution.onTimeout.name) = some execution.onTimeout := by
    cases execution.onTimeout <;> rfl
  obtain ⟨order, budget, onTimeout, debug⟩ := execution
  rw [executionOf, LintExecution.mk.injEq]
  exact ⟨field_ofMembers rfl (lintOrder?_names _), field_ofMembers rfl rfl,
    field_ofMembers rfl policy, field_ofMembers rfl rfl⟩

theorem linterOf_write (linter : LinterConfig) : linterOf (linter.write .ofMembers) = linter := by
  obtain ⟨enabled, rules, execution⟩ := linter
  rw [linterOf, LinterConfig.mk.injEq]
  refine ⟨field_ofMembers rfl rfl, ?_, ?_⟩
  · rw [LinterConfig.write, part_ofMembers rfl, rulesOf_write]
  · rw [LinterConfig.write, part_ofMembers rfl, executionOf_write]

theorem messagesOf_write {catalog : Message.Catalog} (ascending : Ascending catalog.templates)
    (unprefixed : ∀ member ∈ catalog.templates, member.1 ≠ "prefix") :
    messagesOf (catalog.write .ofMembers) = catalog := by
  have distinct : Json.Distinct catalog.members := by
    refine List.pairwise_cons.mpr ⟨?_, List.pairwise_map.mpr ascending.distinct⟩
    intro member listed
    obtain ⟨template, among, rfl⟩ := List.mem_map.mp listed
    exact (unprefixed template among).symm
  have member_iff : ∀ name value, (catalog.write .ofMembers).member? name = some value ↔
      (name, value) ∈ catalog.members := fun _ _ => Json.member?_ofMembers_iff distinct
  have readable : Readable (catalog.write .ofMembers) := by
    refine readable_ofMembers fun member listed => ?_
    obtain ⟨text, written⟩ := string_of_mem_members listed
    rw [written]
    exact .string text
  have opening : (messagesOf (catalog.write .ofMembers)).opening = catalog.opening := by
    rw [messagesOf, field, (member_iff _ _).mpr List.mem_cons_self]
    rfl
  have templates : (messagesOf (catalog.write .ofMembers)).templates = catalog.templates := by
    refine (ascending_templates readable).ext ascending ?_
    rintro ⟨name, template⟩
    rw [mem_templates_iff readable, member_iff]
    constructor
    · rintro ⟨other, listed⟩
      exact (mem_members_iff other).mp listed
    · intro among
      have other := unprefixed _ among
      exact ⟨other, (mem_members_iff other).mpr among⟩
  exact congr (congrArg Message.Catalog.mk opening) templates

theorem ofValue_toValue {config : Config} (savable : config.Savable) :
    ofValue config.toValue = config := by
  have messages := messagesOf_write savable.ascending savable.unprefixed
  obtain ⟨settings, security, catalog, linter, host⟩ := config
  rw [ofValue, Config.mk.injEq]
  refine ⟨?_, ?_, ?_, ?_, ?_⟩
  · rw [toValue, write, part_ofMembers rfl, settingsOf_write]
  · rw [toValue, write, part_ofMembers rfl, securityOf_write]
  · rw [toValue, write, part_ofMembers rfl, messages]
  · rw [toValue, write, part_ofMembers rfl, linterOf_write]
  · rw [toValue, write, part_ofMembers rfl]
    exact congrArg HostConfig.mk (field_ofMembers rfl (strings?_strings _))

theorem readable_toValue {config : Config} (savable : config.Savable) : Readable config.toValue :=
  write_induction config .string .bool readable_strings
    (.integer (by omega) (by exact_mod_cast savable.maxLintTime)) fun _ => readable_ofMembers

theorem sorted_strings (texts : List String) : (Value.strings texts).sorted = .strings texts :=
  Json.sorted_of_readable (readable_strings texts)

theorem sorted_write (config : Config) : (config.write .object).sorted = config.toValue := by
  have messages : (config.messages.write .object).sorted = config.messages.write .ofMembers := by
    rw [Message.Catalog.write, Value.sorted, Json.rebuilt_object, Message.Catalog.members,
      List.map_cons, List.map_map]
    rfl
  have lists : ∀ texts, (Value.strings texts).rebuilt .number = .strings texts := sorted_strings
  have linter : (config.linter.write .object).sorted = config.linter.write .ofMembers := by
    simp only [LinterConfig.write, LintRules.write, LintExecution.write, Value.sorted,
      Value.rebuilt, Value.rebuiltMembers, Value.natural, lists]
  rw [Value.sorted] at messages linter
  simp only [toValue, write, Value.sorted, Value.rebuilt, Value.rebuiltMembers, messages, linter,
    Settings.write, Security.write, HostConfig.write, lists]

theorem budgetCounts_toValue {config : Config} (savable : config.Savable) :
    BudgetCounts config.toValue := by
  intro value present
  rw [at?_budget, toValue, write, part_ofMembers rfl, LinterConfig.write, part_ofMembers rfl,
    LintExecution.write, Json.member?_ofMembers] at present
  exact ⟨_, savable.maxLintTime, (Option.some.inj present).symm⟩

theorem load_of_sorted {config : Config} (savable : config.Savable) {written : Value}
    (plain : Plain written) (same : written.sorted = config.toValue) :
    load written.compact = .ok config := by
  have readable := readable_toValue savable
  have reads : Json.read? written.compact = some config.toValue :=
    (Json.read?_compact plain).trans (congrArg some same)
  rw [load, reads]
  exact (check_eq_ok_iff readable).mpr
    ⟨conforms_toValue savable, budgetCounts_toValue savable, ofValue_toValue savable⟩

/-- A configuration that was loaded is loaded again from its own text, so that saving it once more
changes nothing, and from whatever text writes its members in another order. -/
theorem load_text {text : String} {config : Config} (loads : load text = .ok config) :
    load config.text = .ok config ∧
      (load config.text).toOption.map Config.text = some config.text ∧
      ∀ written : Value, Plain written → written.sorted = config.toValue →
        load written.compact = .ok config := by
  obtain ⟨document, reads, accepted⟩ := load_eq_ok loads
  have savable := savable_of_check (Json.readable_of_read? reads) accepted
  have plain : Plain (config.write .object) :=
    write_induction config .string .bool plain_strings (.natural savable.maxLintTime)
      fun _ => .object
  have again : load config.text = .ok config :=
    load_of_sorted savable plain (sorted_write config)
  refine ⟨again, ?_, fun _ => load_of_sorted savable⟩
  rw [again]
  rfl

theorem load_text_quiet : load quietConfig.text = .ok quietConfig :=
  (load_text load_quietText).1

end ConsoleBatch.Config
