import InputChain.Builder
import Mathlib.Data.List.Forall2

/-!
# Inputs that can be used

Which inputs can be used, and which source each of them names, is told without resolving any. A builder makes one
source of every input if all of them can be used. Else it reports those that cannot, or the first of these: the
policy decides nothing but how many are reported.

* `InputConfig.Usable`, `Pending.Usable`: the inputs that can be used.
* `Pending.Names`, `Pending.Rejected`: the source that an input names, and the report of one that cannot be used.
* `Pending.resolve_eq_ok_iff`, `Pending.resolve_eq_error_iff`: what resolving an input gives.
* `Policy.reported`, **`resolveAll_eq`**, `rejected_reports`: what resolving all of them gives.
* `Pending.Matches`: inputs of two builders that are asked for alike.
* **`build_under_policies`**: success, the sources and the reports under either policy.
* `build_of_nothing`: a list that is built of no inputs has an entry.
-/

namespace InputChain

variable {σ τ : Type}

/-! ## What can be used -/

/-- A description that can be used: of standard input, of a file with its path, or of a text with its content,
which can be empty. -/
def InputConfig.Usable (config : InputConfig) : Prop :=
  (config.kind = "stdin" ∨ config.kind = "-")
    ∨ (config.kind = "file" ∧ config.path.isSome ∧ config.path ≠ some "")
    ∨ (config.kind = "inline" ∧ config.content.isSome)

instance : DecidablePred InputConfig.Usable :=
  fun config => inferInstanceAs (Decidable ((config.kind = "stdin" ∨ config.kind = "-") ∨ _ ∨ _))

/-- What is wrong with a description that cannot be used. -/
def InputConfig.defect? (config : InputConfig) : Option InputDefect :=
  if config.Usable then none
  else if config.kind = "file" then some .missingPath
  else if config.kind = "inline" then some .missingContent
  else some (.unknownKind config.kind)

/-- The provider that a description names. -/
inductive InputConfig.Names (config : InputConfig) : Provider σ → Prop where
  | standardInput (hkind : config.kind = "stdin" ∨ config.kind = "-") : Names config .standardInput
  | file {path : String} (hkind : config.kind = "file") (hpath : config.path = some path)
      (hsome : path ≠ "") : Names config (.file path)
  | inline {content : String} (hkind : config.kind = "inline") (hcontent : config.content = some content) :
      Names config (.memory config.id (Utf8.encode content))

namespace Pending

/-- The identifier of an input: the argument itself, or what was given with the input. -/
def id : Pending σ → String
  | .argument raw => raw
  | .described config => config.id
  | .ready source => source.id

/-- An input that can be used. -/
def Usable : Pending σ → Prop
  | .argument raw => raw ≠ ""
  | .described config => config.Usable
  | .ready _ => True

instance : DecidablePred (Usable : Pending σ → Prop)
  | .argument raw => inferInstanceAs (Decidable (raw ≠ ""))
  | .described config => inferInstanceAs (Decidable config.Usable)
  | .ready _ => inferInstanceAs (Decidable True)

/-- What is wrong with an input that cannot be used. -/
def defect? : Pending σ → Option InputDefect
  | .argument raw => if raw = "" then some .emptyArgument else none
  | .described config => config.defect?
  | .ready _ => none

/-- What is to be reported of an input. -/
def report? (input : Pending σ) : Option SourceError :=
  input.defect?.map (.ofDefect input.id)

/-- The source that an input names. -/
inductive Names : Pending σ → Source σ → Prop where
  | standardInput : Names (.argument "-") ⟨"-", .standardInput⟩
  | path {raw : String} (hsome : raw ≠ "") (hpath : raw ≠ "-") : Names (.argument raw) ⟨raw, .file raw⟩
  | described {config : InputConfig} {provider : Provider σ} (h : config.Names provider) :
      Names (.described config) ⟨config.id, provider⟩
  | ready (source : Source σ) : Names (.ready source) source

/-- The report of an input that cannot be used. -/
structure Rejected (input : Pending σ) (error : SourceError) : Prop where
  stage : error.stage = .resolve
  kind : error.kind? = some .invalidInput
  target : error.target = input.id
  cause : ∃ defect, input.defect? = some defect ∧ error.cause = .io (.unusable defect)

/-- A source has the identifier of the input that names it. -/
theorem Names.id_eq {input : Pending σ} {source : Source σ} (h : input.Names source) : source.id = input.id := by
  cases h <;> rfl

theorem usable_iff_defect? {input : Pending σ} : input.Usable ↔ input.defect? = none := by
  cases input with
  | argument raw => by_cases hempty : raw = "" <;> simp [Usable, defect?, hempty]
  | described config =>
    simp only [Usable, defect?, InputConfig.defect?]
    split_ifs with husable <;> simp [husable]
  | ready => simp [Usable, defect?]

theorem report?_eq_none_iff {input : Pending σ} : input.report? = none ↔ input.Usable :=
  Option.map_eq_none_iff.trans usable_iff_defect?.symm

theorem rejected_of_report? {input : Pending σ} {error : SourceError} (h : input.report? = some error) :
    input.Rejected error := by
  obtain ⟨defect, hdefect, rfl⟩ := Option.map_eq_some_iff.1 h
  exact ⟨rfl, rfl, rfl, defect, hdefect, rfl⟩

theorem Names.usable {input : Pending σ} {source : Source σ} (h : input.Names source) : input.Usable := by
  cases h with
  | standardInput => exact (by decide : "-" ≠ "")
  | path hsome => exact hsome
  | described h =>
    cases h with
    | standardInput hkind => exact Or.inl hkind
    | file hkind hpath hsome =>
      refine Or.inr (Or.inl ⟨hkind, by rw [hpath]; rfl, fun hempty => hsome ?_⟩)
      exact Option.some.inj (hpath.symm.trans hempty)
    | inline hkind hcontent => exact Or.inr (Or.inr ⟨hkind, by rw [hcontent]; rfl⟩)
  | ready => trivial

end Pending

/-! ## One input resolved -/

theorem resolveConfig_of_names {config : InputConfig} {provider : Provider σ} (h : config.Names provider) :
    resolveConfig config = .ok ⟨config.id, provider⟩ := by
  cases h with
  | standardInput hkind => exact if_pos hkind
  | file hkind hpath hsome => simp [resolveConfig, standardInputId, hkind, hpath, hsome]
  | inline hkind hcontent => simp [resolveConfig, standardInputId, Source.inline, hkind, hcontent]

/-- A description names a provider, or it has a defect that is reported under its identifier. -/
theorem resolveConfig_cases (config : InputConfig) :
    (∃ provider : Provider σ, config.Names provider)
      ∨ ∃ defect, config.defect? = some defect
          ∧ (resolveConfig config : Except SourceError (Source σ)) = .error (.ofDefect config.id defect) := by
  obtain ⟨id, kind, path, content⟩ := config
  by_cases hstdin : kind = "stdin" ∨ kind = "-"
  · exact Or.inl ⟨_, .standardInput hstdin⟩
  by_cases hfile : kind = "file"
  · subst hfile
    match path with
    | none => exact Or.inr ⟨.missingPath, rfl, rfl⟩
    | some path =>
      by_cases hpath : path = ""
      · subst hpath
        exact Or.inr ⟨.missingPath, rfl, rfl⟩
      · exact Or.inl ⟨_, .file rfl rfl hpath⟩
  by_cases hinline : kind = "inline"
  · subst hinline
    match content with
    | none => exact Or.inr ⟨.missingContent, rfl, rfl⟩
    | some content => exact Or.inl ⟨_, .inline rfl rfl⟩
  · refine Or.inr ⟨.unknownKind kind, ?_, ?_⟩
    · simp [InputConfig.defect?, InputConfig.Usable, hstdin, hfile, hinline]
    · simp [resolveConfig, standardInputId, hstdin, hfile, hinline]

namespace Pending

variable {input : Pending σ} {source : Source σ} {error : SourceError}

theorem resolve_of_names (h : input.Names source) : input.resolve = .ok source := by
  cases h with
  | standardInput => rfl
  | path hsome hpath => exact (if_neg hsome).trans (if_neg hpath)
  | described h => exact resolveConfig_of_names h
  | ready => rfl

/-- An input names a source, or it has a defect that is reported under its identifier. -/
theorem resolve_cases (input : Pending σ) :
    (∃ source, input.Names source)
      ∨ ∃ defect, input.defect? = some defect ∧ input.resolve = .error (.ofDefect input.id defect) := by
  cases input with
  | argument raw =>
    by_cases hempty : raw = ""
    · exact Or.inr ⟨.emptyArgument, if_pos hempty, if_pos hempty⟩
    · by_cases hdash : raw = "-"
      · subst hdash
        exact Or.inl ⟨_, .standardInput⟩
      · exact Or.inl ⟨_, .path hempty hdash⟩
  | described config =>
    rcases resolveConfig_cases config with ⟨provider, h⟩ | ⟨defect, hdefect, h⟩
    · exact Or.inl ⟨_, .described h⟩
    · exact Or.inr ⟨defect, hdefect, h⟩
  | ready source => exact Or.inl ⟨source, .ready source⟩

/-- **Resolving an input gives the source it names.** -/
theorem resolve_eq_ok_iff : input.resolve = .ok source ↔ input.Names source := by
  refine ⟨fun h => ?_, resolve_of_names⟩
  rcases input.resolve_cases with ⟨named, hnamed⟩ | ⟨defect, -, herror⟩
  · cases h.symm.trans (resolve_of_names hnamed)
    exact hnamed
  · cases h.symm.trans herror

/-- **If resolving an input fails, its defect is reported.** -/
theorem resolve_eq_error_iff : input.resolve = .error error ↔ input.report? = some error := by
  rcases input.resolve_cases with ⟨named, hnamed⟩ | ⟨defect, hdefect, herror⟩
  · rw [resolve_of_names hnamed, report?, usable_iff_defect?.1 hnamed.usable]
    exact ⟨nofun, nofun⟩
  · rw [herror, report?, hdefect, Option.map_some, Except.error.injEq, Option.some.injEq]

end Pending

/-! ## All inputs resolved -/

/-- What is to be reported of some inputs, in order. -/
def reports (inputs : List (Pending σ)) : List SourceError :=
  inputs.filterMap Pending.report?

/-- The sources of those that can be used, in order. -/
def resolvedSources (inputs : List (Pending σ)) : List (Source σ) :=
  inputs.filterMap fun input => input.resolve.toOption

section Cons

variable {input : Pending σ} {rest : List (Pending σ)}

theorem reports_cons_of_ok {source : Source σ} (h : input.resolve = .ok source) :
    reports (input :: rest) = reports rest :=
  List.filterMap_cons_none (Pending.report?_eq_none_iff.2 (Pending.resolve_eq_ok_iff.1 h).usable)

theorem reports_cons_of_error {error : SourceError} (h : input.resolve = .error error) :
    reports (input :: rest) = error :: reports rest :=
  List.filterMap_cons_some (Pending.resolve_eq_error_iff.1 h)

theorem resolvedSources_cons_of_ok {source : Source σ} (h : input.resolve = .ok source) :
    resolvedSources (input :: rest) = source :: resolvedSources rest :=
  List.filterMap_cons_some (congrArg Except.toOption h)

end Cons

/-- The reports that a policy passes on. -/
def Policy.reported : Policy → List SourceError → List SourceError
  | .failFast, errors => errors.take 1
  | .accumulate, errors => errors

theorem Policy.reported_eq_nil_iff {policy : Policy} {errors : List SourceError} :
    policy.reported errors = [] ↔ errors = [] := by
  cases policy with
  | failFast => cases errors <;> simp [reported]
  | accumulate => rfl

/-- An attempt goes on with the sources and the reports found so far; one that ends at a report has found none
before. -/
theorem resolveAll_go (policy : Policy) (sources : List (Source σ)) (errors : List SourceError)
    (inputs : List (Pending σ)) (hfirst : policy = .failFast → errors = []) :
    resolveAll.go policy sources errors inputs
      = if errors.reverse ++ reports inputs = [] then .ok (sources.reverse ++ resolvedSources inputs)
        else .error ⟨policy.reported (errors.reverse ++ reports inputs)⟩ := by
  induction inputs generalizing sources errors with
  | nil =>
    have hreported : policy.reported errors.reverse = errors.reverse := by
      cases policy with
      | failFast => rw [hfirst rfl]; rfl
      | accumulate => rfl
    simp [resolveAll.go, reports, resolvedSources, hreported]
  | cons input rest ih =>
    unfold resolveAll.go
    cases hresolve : input.resolve with
    | ok source =>
      simp only
      rw [ih _ _ hfirst, reports_cons_of_ok hresolve, resolvedSources_cons_of_ok hresolve, List.reverse_cons,
        List.append_assoc, List.singleton_append]
    | error error =>
      have hsome : errors.reverse ++ error :: reports rest ≠ [] := by simp
      rw [reports_cons_of_error hresolve, if_neg hsome]
      cases policy with
      | failFast =>
        obtain rfl := hfirst rfl
        rfl
      | accumulate =>
        simp only
        rw [ih _ _ Policy.noConfusion, List.reverse_cons, List.append_assoc, List.singleton_append,
          if_neg hsome]

/-- **Resolving all inputs gives their sources if nothing is reported of them, else what the policy passes on.** -/
theorem resolveAll_eq (policy : Policy) (inputs : List (Pending σ)) :
    resolveAll policy inputs
      = if reports inputs = [] then .ok (resolvedSources inputs)
        else .error ⟨policy.reported (reports inputs)⟩ :=
  resolveAll_go policy [] [] inputs fun _ => rfl

/-- There is one report of each input that cannot be used, in order. -/
theorem rejected_reports (inputs : List (Pending σ)) :
    List.Forall₂ Pending.Rejected (inputs.filter fun input => ¬input.Usable) (reports inputs) := by
  induction inputs with
  | nil => exact .nil
  | cons input rest ih =>
    cases hreport : input.report? with
    | none =>
      have husable := Pending.report?_eq_none_iff.1 hreport
      rw [reports, List.filterMap_cons_none hreport, List.filter_cons_of_neg (by simpa using husable)]
      exact ih
    | some error =>
      have hunusable : ¬input.Usable := fun husable => by
        cases (Pending.report?_eq_none_iff.2 husable).symm.trans hreport
      rw [reports, List.filterMap_cons_some hreport, List.filter_cons_of_pos (by simpa using hunusable)]
      exact .cons (Pending.rejected_of_report? hreport) ih

/-- Nothing is reported if and only if every input can be used. -/
theorem reports_eq_nil_iff {inputs : List (Pending σ)} :
    reports inputs = [] ↔ ∀ input ∈ inputs, input.Usable := by
  rw [reports, List.filterMap_eq_nil_iff]
  exact forall₂_congr fun input _ => Pending.report?_eq_none_iff

/-- If every input can be used, there is one source of each, in order. -/
theorem names_resolvedSources {inputs : List (Pending σ)} (husable : ∀ input ∈ inputs, input.Usable) :
    List.Forall₂ Pending.Names inputs (resolvedSources inputs) := by
  induction inputs with
  | nil => exact .nil
  | cons input rest ih =>
    obtain ⟨hinput, hrest⟩ := List.forall_mem_cons.1 husable
    cases hresolve : input.resolve with
    | ok source =>
      rw [resolvedSources_cons_of_ok hresolve]
      exact .cons (Pending.resolve_eq_ok_iff.1 hresolve) (ih hrest)
    | error error =>
      cases (Pending.report?_eq_none_iff.2 hinput).symm.trans (Pending.resolve_eq_error_iff.1 hresolve)

/-! ## What is built -/

namespace Builder

variable {builder : Builder σ}

/-- **If every input can be used, the list of their sources is built.** -/
theorem build_of_usable (husable : ∀ input ∈ builder.inputs, input.Usable) :
    builder.build = .ok (SourceList.ofList (resolvedSources builder.inputs)) := by
  rw [build, resolveAll_eq, if_pos (reports_eq_nil_iff.2 husable)]
  rfl

/-- **If one cannot, what the policy passes on is reported.** -/
theorem build_of_unusable (hunusable : ¬∀ input ∈ builder.inputs, input.Usable) :
    builder.build = .error ⟨builder.policy.reported (reports builder.inputs)⟩ := by
  rw [build, resolveAll_eq, if_neg fun hnone => hunusable (reports_eq_nil_iff.1 hnone)]
  rfl

theorem build_eq_ok_iff :
    (∃ list, builder.build = .ok list) ↔ ∀ input ∈ builder.inputs, input.Usable := by
  refine ⟨fun ⟨list, hlist⟩ => ?_, fun husable => ⟨_, build_of_usable husable⟩⟩
  by_contra hunusable
  cases hlist.symm.trans (build_of_unusable hunusable)

theorem build_eq_error_iff {aggregate : AggregateError} :
    builder.build = .error aggregate
      ↔ reports builder.inputs ≠ [] ∧ ⟨builder.policy.reported (reports builder.inputs)⟩ = aggregate := by
  rw [ne_eq, reports_eq_nil_iff]
  by_cases husable : ∀ input ∈ builder.inputs, input.Usable
  · rw [build_of_usable husable]
    exact ⟨nofun, fun h => absurd husable h.1⟩
  · rw [build_of_unusable husable, Except.error.injEq]
    exact ⟨fun h => ⟨husable, h⟩, And.right⟩

/-- What is built of some inputs has one source of each, in order, and is at its start. -/
theorem names_of_build {list : SourceList σ} (hbuild : builder.build = .ok list) :
    list.position = 0
      ∧ (builder.inputs ≠ [] → List.Forall₂ Pending.Names builder.inputs list.sources)
      ∧ (builder.inputs = [] → list.sources = [Source.standardInput]) := by
  have husable := build_eq_ok_iff.1 ⟨list, hbuild⟩
  obtain rfl := Except.ok.inj (hbuild.symm.trans (build_of_usable husable))
  have hnames := names_resolvedSources husable
  refine ⟨rfl, fun hsome => ?_, fun hnil => ?_⟩
  · have hsources : resolvedSources builder.inputs ≠ [] := by
      intro hnil
      rw [hnil] at hnames
      exact hsome (List.forall₂_nil_right_iff.1 hnames)
    simpa [SourceList.ofList, SourceList.sources, hsources] using hnames
  · rw [hnil]
    rfl

end Builder

/-! ## Two builders -/

/-- Inputs of two builders that are asked for alike. Of sources that are ready, `alike` says which are. -/
inductive Pending.Matches (alike : Source σ → Source τ → Prop) : Pending σ → Pending τ → Prop where
  | argument (raw : String) : Matches alike (.argument raw) (.argument raw)
  | described (config : InputConfig) : Matches alike (.described config) (.described config)
  | ready {source : Source σ} {source' : Source τ} (h : alike source source') :
      Matches alike (.ready source) (.ready source')

section Matches

variable {alike : Source σ → Source τ → Prop}

/-- The same is reported of two inputs that are asked for alike. -/
theorem Pending.Matches.report? {input : Pending σ} {input' : Pending τ} (h : input.Matches alike input') :
    input.report? = input'.report? := by
  cases h <;> rfl

theorem reports_of_matches {inputs : List (Pending σ)} {inputs' : List (Pending τ)}
    (h : List.Forall₂ (Pending.Matches alike) inputs inputs') : reports inputs = reports inputs' := by
  induction h with
  | nil => rfl
  | cons hinput _ ih =>
    simp only [reports] at ih ⊢
    rw [List.filterMap_cons, List.filterMap_cons, hinput.report?, ih]

end Matches

/-! ## Both policies -/

/-- **A list of inputs under either policy, in either builder.** A list of sources is built if and only if every
input can be used. Both policies build the same then: one source of each input, in order, and standard input if
there are no inputs. Else all reports are passed on, one of each input that cannot be used, in order, each at the
resolve stage and aimed at that input; or the first of these alone. At least one is passed on. What a second
builder reports of inputs that are asked for alike is the same. -/
theorem build_under_policies (inputs : List (Pending σ)) :
    (∀ policy, (∃ list, (Builder.mk inputs policy).build = .ok list) ↔ ∀ input ∈ inputs, input.Usable)
      ∧ ((∀ input ∈ inputs, input.Usable) → ∃ list,
          (∀ policy, (Builder.mk inputs policy).build = .ok list) ∧ list.position = 0
            ∧ (inputs ≠ [] → List.Forall₂ Pending.Names inputs list.sources)
            ∧ (inputs = [] → list.sources = [Source.standardInput]))
      ∧ ((¬∀ input ∈ inputs, input.Usable) → ∃ first rest,
          (Builder.mk inputs .accumulate).build = .error ⟨first :: rest⟩
            ∧ (Builder.mk inputs .failFast).build = .error ⟨[first]⟩
            ∧ List.Forall₂ Pending.Rejected (inputs.filter fun input => ¬input.Usable) (first :: rest))
      ∧ (∀ policy aggregate, (Builder.mk inputs policy).build = .error aggregate → aggregate.errors ≠ [])
      ∧ ∀ inputs' : List (Pending τ), List.Forall₂ (Pending.Matches fun _ _ => True) inputs inputs' →
          ∀ policy aggregate, (Builder.mk inputs policy).build = .error aggregate
            ↔ (Builder.mk inputs' policy).build = .error aggregate := by
  refine ⟨fun policy => Builder.build_eq_ok_iff, fun husable => ?_, fun hunusable => ?_, ?_, ?_⟩
  · exact ⟨_, fun policy => Builder.build_of_usable husable, @Builder.names_of_build _ ⟨inputs, .accumulate⟩ _
      (Builder.build_of_usable husable)⟩
  · obtain ⟨first, rest, hreports⟩ :=
      List.exists_cons_of_ne_nil fun hnil => hunusable (reports_eq_nil_iff.1 hnil)
    refine ⟨first, rest, ?_, ?_, hreports ▸ rejected_reports inputs⟩
    · rw [Builder.build_of_unusable hunusable, hreports]
      rfl
    · rw [Builder.build_of_unusable hunusable, hreports]
      rfl
  · intro policy aggregate herror
    obtain ⟨hsome, rfl⟩ := Builder.build_eq_error_iff.1 herror
    exact fun hnil => hsome (Policy.reported_eq_nil_iff.1 hnil)
  · intro inputs' hmatches policy aggregate
    rw [Builder.build_eq_error_iff, Builder.build_eq_error_iff, reports_of_matches hmatches]

/-- Three inputs that can be used; then two that can and, between them, an empty argument and a file without its
path, asked of both builders. -/
theorem build_under_policies_mixed :
    let usable : List (Pending Script) :=
      [.argument "-", .described (.inline "t" ""), .ready ⟨"r", .memory "m" []⟩]
    let mixed : List (Pending Script) :=
      [.argument "a", .argument "", .described { id := "f", kind := "file" }, .ready .standardInput]
    let polled : List (Pending PolledScript) :=
      [.argument "a", .argument "", .described { id := "f", kind := "file" }, .ready .standardInput]
    (∀ input ∈ usable, input.Usable)
      ∧ (∃ list, (∀ policy, (Builder.mk usable policy).build = .ok list)
          ∧ List.Forall₂ Pending.Names usable list.sources)
      ∧ (¬∀ input ∈ mixed, input.Usable)
      ∧ (∃ first rest, (Builder.mk mixed .accumulate).build = .error ⟨first :: rest⟩
          ∧ (Builder.mk mixed .failFast).build = .error ⟨[first]⟩ ∧ rest.length = 1)
      ∧ (Builder.mk polled .failFast).build = .error (.single (.ofDefect "" .emptyArgument)) := by
  intro usable mixed polled
  have husable : ∀ input ∈ usable, input.Usable := by decide
  have hunusable : ¬∀ input ∈ mixed, input.Usable := by decide
  have hmatches : List.Forall₂ (Pending.Matches fun _ _ => True) mixed polled :=
    .cons (.argument _) (.cons (.argument _) (.cons (.described _) (.cons (.ready trivial) .nil)))
  obtain ⟨-, hbuilt, -, -, -⟩ := @build_under_policies Script PolledScript usable
  obtain ⟨-, -, hreported, -, hboth⟩ := @build_under_policies Script PolledScript mixed
  obtain ⟨list, hlist, -, hnames, -⟩ := hbuilt husable
  obtain ⟨first, rest, hall, hfirst, hrejected⟩ := hreported hunusable
  refine ⟨husable, ⟨list, hlist, hnames (by simp [usable])⟩, hunusable, ⟨first, rest, hall, hfirst, ?_⟩, ?_⟩
  · have hlength : ([.argument "", .described { id := "f", kind := "file" }] : List (Pending Script)).length
        = (first :: rest).length := hrejected.length_eq
    exact (Nat.succ.inj hlength).symm
  · exact (hboth polled hmatches .failFast _).1 rfl

/-- **A list that is built of no inputs has an entry**, standard input. -/
theorem build_of_nothing :
    ¬∀ (inputs : List (Pending Script)) (policy : Policy) (list : SourceList Script),
        (Builder.mk inputs policy).build = .ok list → list.size = inputs.length :=
  fun hsame => Nat.one_ne_zero (hsame [] .accumulate _ rfl)

end InputChain
