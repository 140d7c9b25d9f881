import ServerForge.Command.Run
import ServerForge.Proofs.SchemaReading

/-! Where the key of a category is taken. Main statement: a key that is none is refused everywhere
by name, before anything is done, and a key that the schemas list is refused nowhere. -/
namespace ServerForge

open Json

/-! ## Keys that tools take -/

/-- The key of a category that a call gives. -/
def Tool.Call.categoryKey? : Tool.Call → Option String
  | .start _ key | .ask key | .generate _ key _ => some key
  | .list | .save .. => none

/-- The keys that the schema of a tool lists for the category, if the tool takes one. -/
def Tool.listedCategories? (tool : Tool) : Option (List String) := do
  let properties ← tool.inputSchema.get? "properties"
  let category ← properties.get? "serverType"
  match ← category.get? "enum" with
  | .arr options => some (options.filterMap Json.text?)
  | _ => none

theorem Tool.listedCategories?_eq (tool : Tool) :
    tool.listedCategories? =
      if tool = .list ∨ tool = .save then none else some Category.keys := by
  cases tool <;> decide

namespace Tool.Call

variable {tool : Tool} {call : Tool.Call}

/-- A call gives the key of a category exactly if the schema of its tool lists keys. -/
theorem categoryKey?_isSome_iff {arguments : Json} (read : ofJson tool arguments = .ok call) :
    call.categoryKey?.isSome ↔ tool.listedCategories?.isSome := by
  rw [Tool.listedCategories?_eq]
  cases tool with
  | list =>
    cases read
    exact Iff.rfl
  | start | ask | generate | save =>
    obtain ⟨a, -, rfl⟩ := map_eq_ok.mp read
    exact Iff.rfl

/-- The key is what the arguments hold for the category. -/
theorem categoryKey?_held {members : Members} (single : (keys members).Nodup) {key : String}
    (read : ofJson tool (.obj members) = .ok call) (given : call.categoryKey? = some key) :
    members.lookup "serverType" = some (.str key) := by
  cases tool with
  | start =>
    obtain ⟨a, made, rfl⟩ := map_eq_ok.mp read
    cases given
    exact Tool.start_category_held single made
  | ask =>
    obtain ⟨a, made, rfl⟩ := map_eq_ok.mp read
    cases given
    exact Tool.ask_category_held single made
  | generate =>
    obtain ⟨a, made, rfl⟩ := map_eq_ok.mp read
    cases given
    exact Tool.generate_category_held single made
  | list =>
    cases read
    cases given
  | save =>
    obtain ⟨a, -, rfl⟩ := map_eq_ok.mp read
    cases given

theorem categoryKnown_of_mem {key : String} (given : call.categoryKey? = some key)
    (listed : key ∈ Category.keys) : call.CategoryKnown := by
  cases call with
  | start | ask | generate =>
    cases given
    exact listed
  | list | save => trivial

end Tool.Call

theorem Category.ofKey_of_mem {key : String} (listed : key ∈ keys) :
    ∃ category : Category, category.key = key ∧ ofKey key = .ok category := by
  obtain ⟨category, -, rfl⟩ := List.mem_map.mp listed
  exact ⟨category, rfl, ofKey_key category⟩

theorem Synthesis.run_ne_unknownCategory {key : String} (listed : key ∈ Category.keys)
    (config : Config) (project : String) (requirements : Requirements) (other : String) :
    run config project key requirements ≠ .error (.unknownCategory other) := by
  intro failed
  rcases run_eq_error_iff.mp failed with ⟨missing, -⟩ | ⟨category, -, refused⟩
  · exact missing listed
  · obtain ⟨_, _, _, _, _, _, _, _, reported⟩ := ServerModel.build_eq_error_iff.mp refused
    cases reported

section
variable {World : Type} [Files.Access (StateM World)]

theorem Save.run_ne_unknownCategory (bundle : Bundle) (output : Path) (project : String)
    (world : World) (key : String) :
    ((run bundle output project : StateM World _).run world).1 ≠
      .error (.unknownCategory key) := by
  intro failed
  by_cases entry : Path.EntryName project
  · rcases run_cases entry bundle output world with ⟨files, saved⟩ | ⟨failures, other⟩
    · cases saved.symm.trans failed
    · cases other.symm.trans failed
  · rw [run_of_other entry] at failed
    cases failed

theorem Server.perform_of_unknown {key : String} (unknown : key ∉ Category.keys)
    {call : Tool.Call} (given : call.categoryKey? = some key) (server : Server) (world : World) :
    (server.perform call : StateM World _).run world =
      ((.error (.unknownCategory key), server), world) := by
  have missing := Category.ofKey_eq_error_iff.mpr ⟨unknown, rfl⟩
  cases call with
  | start | ask =>
    cases given
    simp only [perform, missing]
    rfl
  | generate project _ requirements =>
    cases given
    have refused : Synthesis.run server.config project key requirements = _ :=
      Synthesis.run_eq_error_iff.mpr (.inl ⟨unknown, rfl⟩)
    simp only [perform, refused]
    rfl
  | list | save => cases given

end

/-! ## Commands -/

namespace Command

/-- No other failure is reported like this one. -/
theorem Report.ofFailure_ne_unknownCategory {failure : Failure} {key : String}
    (other : failure ≠ .unknownCategory key) :
    Report.ofFailure failure ≠ .ofFailure (.unknownCategory key) := by
  intro same
  exact other (Failure.eq_unknownCategory_of_message (congrArg Report.message same))

section
variable {World : Type} [Console (StateM World)]

/-- Asking for the requirements fails only if nobody answers. -/
theorem Generate.requirements_cases (options : GenerateOptions) (category : Category)
    (world : World) :
    let asked := (requirements options category : StateM World _).run world
    (∃ what, asked.1 = .error (noTerminal what)) ∨ ∃ answered, asked.1 = .ok answered := by
  dsimp only
  unfold requirements askAll
  split
  · -- one question after another, as long as there are answers
    simp only [Save.run_bind]
    split
    · exact .inl ⟨_, rfl⟩
    · simp only [Save.run_bind]
      split
      · exact .inl ⟨_, rfl⟩
      · simp only [Save.run_bind]
        split
        · exact .inl ⟨_, rfl⟩
        · exact .inr ⟨_, rfl⟩
  · exact .inr ⟨_, rfl⟩

variable [Files.Access (StateM World)]

/-- For a category that is known, generating succeeds, gets no answers, or fails otherwise. -/
theorem Generate.run_cases {options : GenerateOptions} (listed : options.category ∈ Category.keys)
    (config : Config) (world : World) :
    let outcome := ((run config options : StateM World _).run world).1
    outcome = .ok () ∨ (∃ what, outcome = .error (noTerminal what)) ∨
      ∃ failure, outcome = .error (.ofFailure failure) ∧ ∀ key, failure ≠ .unknownCategory key := by
  dsimp only
  obtain ⟨category, same, known⟩ := Category.ofKey_of_mem listed
  unfold run
  simp only [known, Save.run_bind]
  rcases requirements_cases options category world with ⟨what, unasked⟩ | ⟨answered, asked⟩
  · rw [unasked]
    exact .inr (.inl ⟨what, rfl⟩)
  · rw [asked]
    dsimp only
    cases made : Synthesis.run config options.project category.key answered with
    | error failure =>
      refine .inr (.inr ⟨failure, rfl, ?_⟩)
      rintro key rfl
      rw [same] at made
      exact Synthesis.run_ne_unknownCategory listed config _ answered key made
    | ok synthesis =>
      dsimp only
      split
      · exact .inl rfl
      · rw [Save.run_bind]
        split
        next failure failed =>
          refine .inr (.inr ⟨failure, rfl, ?_⟩)
          rintro key rfl
          exact Save.run_ne_unknownCategory _ _ _ _ key failed
        next => exact .inl rfl

theorem Generate.run_ne_unknownCategory {options : GenerateOptions}
    (listed : options.category ∈ Category.keys) (config : Config) (world : World) (key : String) :
    ((run config options : StateM World _).run world).1 ≠
      .error (.ofFailure (.unknownCategory key)) := by
  intro failed
  rcases run_cases listed config world with done | ⟨what, unasked⟩ | ⟨failure, other, different⟩
  · cases done.symm.trans failed
  · have same := Except.error.inj (unasked.symm.trans failed)
    cases congrArg (·.causes.length) same
  · exact Report.ofFailure_ne_unknownCategory (different key)
      (Except.error.inj (other.symm.trans failed))

end

end Command

/-! ## Everywhere -/

section
variable (World : Type) [Files.Access (StateM World)] [Command.Console (StateM World)]

/-- Whatever takes the key of a category refuses this one, and does nothing: the server stays as
it is, and so does the world, which is all the files and all that was said. -/
structure KeyRefused (key : String) : Prop where
  lookup : Category.ofKey key = .error (.unknownCategory key)
  synthesis (config : Config) (project : String) (requirements : Requirements) :
    Synthesis.run config project key requirements = .error (.unknownCategory key)
  call (server : Server) (tool : Tool) (arguments : Json) (call : Tool.Call)
    (read : Tool.Call.ofJson tool arguments = .ok call) (given : call.categoryKey? = some key)
    (world : World) :
    (server.callTool tool.name arguments : StateM World _).run world =
      ((.ok (.ofOutcome (.error (.unknownCategory key))), server), world)
  questions (config : Config) (world : World) :
    ((Command.Action.questions key).run config : StateM World _).run world =
      (.error (.ofFailure (.unknownCategory key)), world)
  generate (config : Config) (options : Command.GenerateOptions) (given : options.category = key)
    (world : World) :
    ((Command.Action.generate options).run config : StateM World _).run world =
      (.error (.ofFailure (.unknownCategory key)), world)

/-- Nothing that takes the key of a category fails because of this one. -/
structure KeyAccepted (key : String) : Prop where
  lookup : ∃ category : Category, category.key = key ∧ Category.ofKey key = .ok category
  synthesis (config : Config) (project : String) (requirements : Requirements) (other : String) :
    Synthesis.run config project key requirements ≠ .error (.unknownCategory other)
  call (server : Server) (tool : Tool) (arguments : Json) (call : Tool.Call)
    (read : Tool.Call.ofJson tool arguments = .ok call) (given : call.categoryKey? = some key)
    (world : World) :
    ∃ outcome, ((server.callTool tool.name arguments : StateM World _).run world).1.1 =
      .ok (.ofOutcome outcome) ∧ ∀ other, outcome ≠ .error (.unknownCategory other)
  questions (config : Config) (world : World) :
    (((Command.Action.questions key).run config : StateM World _).run world).1 = .ok ()
  generate (config : Config) (options : Command.GenerateOptions) (given : options.category = key)
    (world : World) (other : String) :
    (((Command.Action.generate options).run config : StateM World _).run world).1 ≠
      .error (.ofFailure (.unknownCategory other))

theorem keyRefused_of_unknown {key : String} (unknown : key ∉ Category.keys) :
    KeyRefused World key := by
  have missing := Category.ofKey_eq_error_iff.mpr ⟨unknown, rfl⟩
  constructor
  · exact missing
  · intro config project requirements
    exact Synthesis.run_eq_error_iff.mpr (.inl ⟨unknown, rfl⟩)
  · intro server tool arguments call read given world
    rw [Server.run_callTool_of_ok read, Server.perform_of_unknown unknown given]
  · intro config world
    simp only [Command.Action.run, missing]
    rfl
  · rintro config options rfl world
    simp only [Command.Action.run, Command.Generate.run, missing]
    rfl

theorem keyAccepted_of_mem {key : String} (listed : key ∈ Category.keys) :
    KeyAccepted World key := by
  constructor
  · exact Category.ofKey_of_mem listed
  · exact Synthesis.run_ne_unknownCategory listed
  · intro server tool arguments call read given world
    refine ⟨_, congrArg (·.1.1) (Server.run_callTool_of_ok read world), fun other failed => ?_⟩
    rcases server.perform_cases call world with ⟨failure, same, fails⟩ | ⟨text, done, -⟩
    · cases same.symm.trans failed
      exact fails.ne_unknownCategory (Tool.Call.categoryKnown_of_mem given listed) other rfl
    · cases done.symm.trans failed
  · intro config world
    obtain ⟨category, -, known⟩ := Category.ofKey_of_mem listed
    simp only [Command.Action.run, known]
    rfl
  · rintro config options rfl world other
    exact Command.Generate.run_ne_unknownCategory listed config world other

/-- A key is refused wherever one is taken, unless it is a category's; those that a schema lists
are refused nowhere. The tools that take one are those whose schemas list them, and they take it
from the member that the schema names. -/
theorem categories_are_closed (key : String) :
    (key ∉ Category.keys → KeyRefused World key) ∧
    (∀ tool listed, Tool.listedCategories? tool = some listed → key ∈ listed →
      KeyAccepted World key) ∧
    (∀ tool ∈ [Tool.start, .ask, .generate], tool.listedCategories? = some Category.keys) ∧
    ∀ tool arguments call, Tool.Call.ofJson tool arguments = .ok call →
      (call.categoryKey?.isSome ↔ tool.listedCategories?.isSome) ∧
      ∀ members given, arguments = .obj members → (keys members).Nodup →
        call.categoryKey? = some given → members.lookup "serverType" = some (.str given) := by
  refine ⟨keyRefused_of_unknown World, ?_, by decide, ?_⟩
  · intro tool listed shown member
    rw [Tool.listedCategories?_eq] at shown
    split at shown
    · cases shown
    · cases shown
      exact keyAccepted_of_mem World member
  · intro tool arguments call read
    refine ⟨Tool.Call.categoryKey?_isSome_iff read, ?_⟩
    rintro members given rfl single held
    exact Tool.Call.categoryKey?_held single read held

end

end ServerForge
