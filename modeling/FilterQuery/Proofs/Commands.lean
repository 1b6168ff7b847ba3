import FilterQuery.CommandLine.Run
import FilterQuery.Proofs.Composition

/-!
# What the two commands have in common

Both commands find their settings and their text in the same way, decode the text and compile the
request in it. What comes of that (`ending`) depends on the text, the wire version and on whether a
clause is required, and on nothing else. `check` requires one; `compile` does if its arguments or the
settings say so, and then the two commands succeed on the same texts and fail for the same reasons. The
other flags of `compile` only choose what is printed about a request that compiles.
-/

namespace FilterQuery.CommandLine

/-- The variables of the environment and, behind them, those of the file for variables. -/
def Surroundings.variables (s : Surroundings) : Config.Variables :=
  match s.files ".env" with
  | .ok file => s.environment.withFile file.text
  | .error _ => s.environment

/-- The arguments call a command with some parameters, where the settings are in order and the text of
the request can be read. -/
structure Calls (s : Surroundings) (arguments : List String) (command : Command)
    (values : List (Parameter × String)) (settings : Config.Settings) (text : String) : Prop where
  parsed : Invocation.ofArguments arguments = .ok (.run command values)
  loaded : Config.loadSettings s.files s.variables (values.lookup .config) = .ok settings
  inOrder : settings.fault? = none
  readable : readInput s (values.lookup .input) = .ok text

def flagsOf (values : List (Parameter × String)) : CompileFlags where
  required := (values.lookup .required).isSome
  diagnostics := (values.lookup .diagnostics).isSome
  options := (values.lookup .options).isSome
  compact := (values.lookup .compact).isSome

/-- The wire version of a call: that of the arguments, or else that of the settings. -/
def versionOf (settings : Config.Settings) (values : List (Parameter × String)) : WireVersion :=
  ((values.lookup .version).bind WireVersion.ofText?).getD settings.wireVersion

/-- Whether a call requires a clause that counts. -/
def requires (settings : Config.Settings) (flags : CompileFlags) : Command → Bool
  | .compile => flags.required || settings.required
  | .check => true

def isPretty (settings : Config.Settings) (flags : CompileFlags) : Bool :=
  settings.pretty && !flags.compact

def Outcome.FailsWith (o : Outcome) (command : Command) (f : Failure) : Prop :=
  ∃ logged, o = failed command logged f

def Outcome.Prints (o : Outcome) (pretty : Bool) (members : List (String × Json)) : Prop :=
  ∃ logged, o = { exit := 0, output := render pretty members ++ "\n", messages := logged }

theorem Outcome.FailsWith.not_prints {o : Outcome} {command : Command} {f : Failure} {pretty : Bool}
    {members : List (String × Json)} (h : o.FailsWith command f) : ¬ o.Prints pretty members := by
  obtain ⟨logged, rfl⟩ := h
  rintro ⟨logged', hprints⟩
  cases congrArg Outcome.exit hprints

/-- What comes of a text: the request and what it is compiled to, or the reason why there is none. -/
def ending (version : WireVersion) (required : Bool) (text : String) :
    Except Failure (Request × Compiled) :=
  match Request.ofText version text with
  | .error e => .error (.undecodable e)
  | .ok r =>
    match r.compile required with
    | .error e => .error (.rejected e)
    | .ok c => .ok (r, c)

/-- Where a clause is required, a text is no request, or nothing in it counts, or it compiles. -/
theorem ending_required (version : WireVersion) (text : String) :
    (∃ e, Request.ofText version text = .error e ∧
      ending version true text = .error (.undecodable e)) ∨
    (∃ r, Request.ofText version text = .ok r ∧ r.draft.parsed = 0 ∧
      ending version true text = .error (.rejected .nothingParsed)) ∨
    ∃ r c, Request.ofText version text = .ok r ∧ r.compile true = .ok c ∧
      ending version true text = .ok (r, c) := by
  unfold ending
  cases htext : Request.ofText version text with
  | error e => exact .inl ⟨e, rfl, rfl⟩
  | ok r =>
      by_cases hparsed : r.draft.parsed = 0
      · have hcompile : r.compile true = .error .nothingParsed := by
          simp [Request.compile, Draft.compiled, hparsed]
        exact .inr (.inl ⟨r, rfl, hparsed, by simp only [hcompile]⟩)
      · have hcompile : r.compile true = .ok r.draft.compiled := by
          simp [Request.compile, Draft.compiled, hparsed]
        exact .inr (.inr ⟨r, r.draft.compiled, rfl, hcompile, by simp only [hcompile]⟩)

def resultOf (settings : Config.Settings) (values : List (Parameter × String)) (text : String) :
    Command → Result
  | .compile => compileText settings (flagsOf values) (versionOf settings values) text
  | .check => checkText (versionOf settings values) text

/-- What a command prints about a request that compiles. -/
def printed (flags : CompileFlags) (r : Request) (c : Compiled) : Command → List (String × Json)
  | .compile => compileMembers flags r c
  | .check => diagnosticMembers c

theorem members_process (version : WireVersion) (required : Bool)
    (finish : Request → Compiled → List Event × List (String × Json)) (text : String) :
    (process version required finish text).members =
      (ending version required text).map fun p => (finish p.1 p.2).2 := by
  rw [process, ending]
  cases Request.ofText version text with
  | error e => rfl
  | ok r =>
      cases hcompile : r.compile required with
      | error e => simp [hcompile, Except.map]
      | ok c => simp [hcompile, Except.map]

theorem members_resultOf (settings : Config.Settings) (values : List (Parameter × String))
    (text : String) (command : Command) :
    (resultOf settings values text command).members =
      (ending (versionOf settings values) (requires settings (flagsOf values) command) text).map
        fun p => printed (flagsOf values) p.1 p.2 command := by
  cases command with
  | compile => exact members_process _ _ _ _
  | check => exact members_process _ _ _ _

section Calls

variable {s : Surroundings} {arguments : List String} {command : Command}
  {values : List (Parameter × String)} {settings : Config.Settings} {text : String}
  (h : Calls s arguments command values settings text)

include h

theorem Calls.run_eq : run s arguments = runWith s s.variables settings command values := by
  have hloaded := h.loaded
  rw [run, h.parsed]
  simp only [runCommand]
  rw [Surroundings.variables] at hloaded ⊢
  cases hfile : s.files ".env" with
  | error fault =>
      rw [hfile] at hloaded
      simp only [hloaded, h.inOrder]
  | ok file =>
      rw [hfile] at hloaded
      simp only [hloaded, h.inOrder]

/-- A call ends as its text does, with some lines of the log. -/
theorem Calls.exists_run_eq : ∃ logged, run s arguments =
    match (resultOf settings values text command).members with
    | .error f => failed command logged f
    | .ok members =>
      { exit := 0
        output := render (isPretty settings (flagsOf values)) members ++ "\n"
        messages := logged } := by
  refine ⟨(logFilter s.variables settings).2 ++
    logLines (logFilter s.variables settings).1 settings.json
      (startEvents settings ++ (resultOf settings values text command).events), ?_⟩
  rw [h.run_eq, runWith]
  simp only [h.readable]
  cases command with
  | compile => rfl
  | check => rfl

theorem Calls.failsWith {f : Failure}
    (hf : ending (versionOf settings values) (requires settings (flagsOf values) command) text =
      .error f) : (run s arguments).FailsWith command f := by
  obtain ⟨logged, hrun⟩ := h.exists_run_eq
  rw [members_resultOf, hf] at hrun
  exact ⟨logged, hrun⟩

theorem Calls.prints {r : Request} {c : Compiled}
    (hc : ending (versionOf settings values) (requires settings (flagsOf values) command) text =
      .ok (r, c)) :
    (run s arguments).Prints (isPretty settings (flagsOf values))
      (printed (flagsOf values) r c command) := by
  obtain ⟨logged, hrun⟩ := h.exists_run_eq
  rw [members_resultOf, hc] at hrun
  exact ⟨logged, hrun⟩

end Calls

/-- The names of all members that `compile` can print, in their order. -/
def memberNames : List String := ["filter", "sort", "skip", "limit", "parsed", "diagnostics"]

section Members

variable (r : Request) (c : Compiled)

theorem names_window_sublist (l : Listing) : (l.window.map Prod.fst).Sublist ["skip", "limit"] := by
  rw [Listing.window]
  cases l.skip with
  | none =>
      cases l.limit with
      | none => simp
      | some n => simp
  | some m =>
      cases l.limit with
      | none => simp
      | some n => simp

/-- What `compile` prints between the filter and the account of the compilation. -/
def listingMembers (flags : CompileFlags) (r : Request) : List (String × Json) :=
  if flags.options then
    ("sort", .object (Listing.ofRequest r).sortDocument) :: (Listing.ofRequest r).window
  else []

theorem compileMembers_eq (flags : CompileFlags) : compileMembers flags r c =
    ("filter", c.clauses.toJson) :: listingMembers flags r ++
      if flags.diagnostics then diagnosticMembers c else [] := rfl

theorem names_listingMembers_sublist (flags : CompileFlags) :
    ((listingMembers flags r).map Prod.fst).Sublist ["sort", "skip", "limit"] := by
  rw [listingMembers]
  split
  · exact (names_window_sublist _).cons_cons "sort"
  · simp

theorem names_compileMembers_sublist (flags : CompileFlags) :
    ((compileMembers flags r c).map Prod.fst).Sublist memberNames := by
  have haccount : ((if flags.diagnostics then diagnosticMembers c else []).map Prod.fst).Sublist
      ["parsed", "diagnostics"] := by
    split
    · exact List.Sublist.refl _
    · simp
  rw [compileMembers_eq, List.map_append, List.map_cons]
  exact ((names_listingMembers_sublist r flags).cons_cons "filter").append haccount

theorem lookup_compileMembers_filter (flags : CompileFlags) :
    (compileMembers flags r c).lookup "filter" = some c.clauses.toJson := rfl

/-- The account of the compilation is found among all members. -/
theorem lookup_compileMembers_of_diagnostics {flags : CompileFlags}
    (hflag : flags.diagnostics = true) {name : String} (hname : name ∈ ["parsed", "diagnostics"]) :
    (compileMembers flags r c).lookup name = (diagnosticMembers c).lookup name := by
  have hnames := (names_listingMembers_sublist r flags).cons_cons "filter"
  have hnot : (("filter", c.clauses.toJson) :: listingMembers flags r).lookup name = none := by
    rw [List.lookup_eq_none_iff]
    intro m hm
    have hmem : m.1 ∈ ["filter", "sort", "skip", "limit"] :=
      hnames.subset (List.mem_map.2 ⟨m, hm, rfl⟩)
    have hdistinct : ∀ n ∈ ["filter", "sort", "skip", "limit"],
        ∀ n' ∈ ["parsed", "diagnostics"], n' ≠ n := by decide
    exact bne_iff_ne.2 (hdistinct m.1 hmem name hname)
  rw [compileMembers_eq, List.lookup_append, hnot, hflag]
  rfl

theorem compileMembers_sublist {flags more : CompileFlags}
    (hoptions : flags.options = true → more.options = true)
    (hdiagnostics : flags.diagnostics = true → more.diagnostics = true) :
    (compileMembers flags r c).Sublist (compileMembers more r c) := by
  have hlisting : (listingMembers flags r).Sublist (listingMembers more r) := by
    rw [listingMembers, listingMembers]
    split
    · next hflag => simp [hoptions hflag]
    · exact List.nil_sublist _
  have haccount : (if flags.diagnostics then diagnosticMembers c else []).Sublist
      (if more.diagnostics then diagnosticMembers c else []) := by
    split
    · next hflag => simp [hdiagnostics hflag]
    · exact List.nil_sublist _
  rw [compileMembers_eq, compileMembers_eq]
  exact (hlisting.cons_cons _).append haccount

end Members

/-- **The commands agree, and the flags only add members.** Of a `check` and a `compile` that requires a
clause, in the same wire version and on the same text, either both fail because the text is no request,
or both because nothing in it counts, or both succeed; and if `compile` prints its diagnostics, then
what it prints as `parsed` and `diagnostics` is what `check` prints. Two calls of `compile` with the same
wire version that agree on whether a clause is required fail for the same reason or both succeed with the
same filter. The members always come in the same order, and with more flags there are more of them. -/
theorem commands_agree (s : Surroundings) (settings : Config.Settings) (text : String) :
    (∀ {checkArguments compileArguments forCheck forCompile},
      Calls s checkArguments .check forCheck settings text →
      Calls s compileArguments .compile forCompile settings text →
      versionOf settings forCompile = versionOf settings forCheck →
      requires settings (flagsOf forCompile) .compile = true →
        (∃ e, Request.ofText (versionOf settings forCheck) text = .error e ∧
          (run s checkArguments).FailsWith .check (.undecodable e) ∧
          (run s compileArguments).FailsWith .compile (.undecodable e)) ∨
        (∃ r, Request.ofText (versionOf settings forCheck) text = .ok r ∧ r.draft.parsed = 0 ∧
          (run s checkArguments).FailsWith .check (.rejected .nothingParsed) ∧
          (run s compileArguments).FailsWith .compile (.rejected .nothingParsed)) ∨
        ∃ r c members, Request.ofText (versionOf settings forCheck) text = .ok r ∧
          r.compile true = .ok c ∧
          (run s checkArguments).Prints (isPretty settings (flagsOf forCheck))
            (diagnosticMembers c) ∧
          (run s compileArguments).Prints (isPretty settings (flagsOf forCompile)) members ∧
          ((flagsOf forCompile).diagnostics = true → ∀ name ∈ ["parsed", "diagnostics"],
            members.lookup name = (diagnosticMembers c).lookup name)) ∧
    ∀ {arguments arguments' values values'},
      Calls s arguments .compile values settings text →
      Calls s arguments' .compile values' settings text →
      versionOf settings values' = versionOf settings values →
      requires settings (flagsOf values') .compile = requires settings (flagsOf values) .compile →
        (∃ f, (run s arguments).FailsWith .compile f ∧ (run s arguments').FailsWith .compile f) ∨
        ∃ filter members members',
          (run s arguments).Prints (isPretty settings (flagsOf values)) members ∧
          (run s arguments').Prints (isPretty settings (flagsOf values')) members' ∧
          members.lookup "filter" = some filter ∧ members'.lookup "filter" = some filter ∧
          (members.map Prod.fst).Sublist memberNames ∧
          (members'.map Prod.fst).Sublist memberNames ∧
          (((flagsOf values).options = true → (flagsOf values').options = true) →
            ((flagsOf values).diagnostics = true → (flagsOf values').diagnostics = true) →
              members.Sublist members') := by
  constructor
  · intro checkArguments compileArguments forCheck forCompile hcheck hcompile hversion hrequired
    have hending : ending (versionOf settings forCompile)
        (requires settings (flagsOf forCompile) .compile) text =
          ending (versionOf settings forCheck) (requires settings (flagsOf forCheck) .check) text := by
      rw [hversion, hrequired]
      rfl
    rcases ending_required (versionOf settings forCheck) text with
      ⟨e, htext, hends⟩ | ⟨r, htext, hparsed, hends⟩ | ⟨r, c, htext, hc, hends⟩
    · exact .inl ⟨e, htext, hcheck.failsWith hends, hcompile.failsWith (hending.trans hends)⟩
    · exact .inr (.inl ⟨r, htext, hparsed, hcheck.failsWith hends,
        hcompile.failsWith (hending.trans hends)⟩)
    · exact .inr (.inr ⟨r, c, _, htext, hc, hcheck.prints hends,
        hcompile.prints (hending.trans hends),
        fun hflag _ hname => lookup_compileMembers_of_diagnostics r c hflag hname⟩)
  · intro arguments arguments' values values' h h' hversion hrequired
    cases hending : ending (versionOf settings values)
        (requires settings (flagsOf values) .compile) text with
    | error f =>
        refine .inl ⟨f, h.failsWith hending, h'.failsWith ?_⟩
        rw [hversion, hrequired, hending]
    | ok p =>
        obtain ⟨r, c⟩ := p
        have hending' : ending (versionOf settings values')
            (requires settings (flagsOf values') .compile) text = .ok (r, c) := by
          rw [hversion, hrequired, hending]
        exact .inr ⟨c.clauses.toJson, _, _, h.prints hending, h'.prints hending',
          lookup_compileMembers_filter r c _, lookup_compileMembers_filter r c _,
          names_compileMembers_sublist r c _, names_compileMembers_sublist r c _,
          compileMembers_sublist r c⟩

/-- Surroundings with a text on the standard input and nothing else. -/
def onlyInput (text : String) : Surroundings := ⟨fun _ => .error .missing, [], text.toUTF8⟩

theorem loadSettings_onlyInput (text : String) :
    Config.loadSettings (onlyInput text).files (onlyInput text).variables none = .ok {} := by
  have hmissing : ∀ name,
      Config.findFile (onlyInput text).files name = .error (.missingFile name) := by
    intro name
    have hno : ∀ file, (onlyInput text).files.hasRegular file = false := fun _ => rfl
    simp only [Config.findFile, hno]
    rw [List.find?_eq_none.2 (by simp)]
    rfl
  have hentries : Config.configuredEntries (onlyInput text).files none = .ok [] := by
    simp only [Config.configuredEntries, hmissing]
  rw [Config.loadSettings, hentries]
  rfl

def ageRequest : String :=
  "\x7b\"query\": \x7b\"match\": [\x7b\"key\": \"age\", \"value\": 4\x7d]\x7d\x7d"

theorem commands_agree_ageRequest :
    (∃ c members, c.parsed = 1 ∧
      (run (onlyInput ageRequest) ["check"]).Prints true (diagnosticMembers c) ∧
      (run (onlyInput ageRequest) ["compile", "--required", "--diagnostics"]).Prints true members ∧
      members.lookup "parsed" = (diagnosticMembers c).lookup "parsed") ∧
    ∃ filter members members',
      (run (onlyInput ageRequest) ["compile", "--required", "--diagnostics"]).Prints true members ∧
      (run (onlyInput ageRequest) ["compile", "--required", "--options", "--diagnostics",
        "--compact"]).Prints false members' ∧
      members.lookup "filter" = some filter ∧ members'.lookup "filter" = some filter ∧
      members.Sublist members' := by
  have hinOrder : Config.Settings.fault? {} = none := by decide +kernel
  have hcheck : Calls (onlyInput ageRequest) ["check"] .check [] {} ageRequest :=
    ⟨rfl, loadSettings_onlyInput ageRequest, hinOrder, rfl⟩
  have hcompile : Calls (onlyInput ageRequest) ["compile", "--required", "--diagnostics"] .compile
      [(.required, ""), (.diagnostics, "")] {} ageRequest :=
    ⟨rfl, loadSettings_onlyInput ageRequest, hinOrder, rfl⟩
  have hall : Calls (onlyInput ageRequest) ["compile", "--required", "--options", "--diagnostics",
      "--compact"] .compile
      [(.required, ""), (.options, ""), (.diagnostics, ""), (.compact, "")] {} ageRequest :=
    ⟨rfl, loadSettings_onlyInput ageRequest, hinOrder, rfl⟩
  have hparsed : (Request.ofText .v3 ageRequest).toOption.map (·.draft.parsed) = some 1 := by
    decide +kernel
  obtain ⟨hagree, hflags⟩ := commands_agree (onlyInput ageRequest) {} ageRequest
  have hversion : versionOf {} [] = .v3 := by decide +kernel
  rcases hagree hcheck hcompile rfl rfl with
    ⟨e, htext, -⟩ | ⟨r, htext, hnone, -⟩ | ⟨r, c, members, htext, hc, hchecks, hprints, haccount⟩
  · rw [hversion] at htext
    rw [htext] at hparsed
    cases hparsed
  · rw [hversion] at htext
    rw [htext] at hparsed
    simp [Except.toOption, hnone] at hparsed
  · rw [hversion] at htext
    rw [htext] at hparsed
    have hone : c.parsed = 1 := by
      rw [r.eq_of_compile_eq_ok hc]
      exact Option.some.inj hparsed
    refine ⟨⟨c, members, hone, hchecks, hprints, haccount rfl "parsed" (by simp)⟩, ?_⟩
    rcases hflags hcompile hall rfl rfl with ⟨f, hfails, -⟩ |
      ⟨filter, members, members', hprints, hprints', hfilter, hfilter', -, -, hmore⟩
    · exact absurd hprints hfails.not_prints
    · exact ⟨filter, members, members', hprints, hprints', hfilter, hfilter',
        hmore (fun h => absurd h (by decide)) fun _ => rfl⟩

end FilterQuery.CommandLine
