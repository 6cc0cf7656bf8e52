import InputChain.CommandLine.InputArgs
import InputChain.Proofs.UsableInputs

/-!
# Inputs kept through the calls of a builder

A builder is told its inputs by one call after another, and keeps them in that order. Only one kind of call takes
anything back: it puts its raw arguments at the end, in place of all earlier ones, and leaves the other inputs
where they are. So what a call adds is kept unless it is an argument and a later call replaces the arguments.

* `BuilderCall`, `Builder.after`, `Builder.begin`: calls, and the builder after them.
* `staying`, `kept`: the inputs that stay through later calls, and those kept at the end.
* **`Builder.inputs_after`**: the inputs of a builder after some calls.
* `BuilderCall.spelled`, `BuilderCall.Alike`: the calls of a builder that takes no inputs of a command line.
* **`kept_inputs_built`**: what is built after any calls, by either builder.
-/

namespace InputChain

variable {σ τ : Type}

/-! ## Calls -/

/-- A call of a builder. -/
inductive BuilderCall (σ : Type) where
  | addArgument (raw : String)
  /-- Puts these arguments in place of all earlier ones. -/
  | setArguments (raws : List String)
  | addConfig (config : InputConfig)
  | addSource (source : Source σ)
  | setPolicy (policy : Policy)
  /-- Adds the inputs of a command line as arguments. -/
  | addArgs (args : InputArgs)

namespace BuilderCall

/-- The builder makes a call. -/
def apply (builder : Builder σ) : BuilderCall σ → Builder σ
  | .addArgument raw => builder.addArgument raw
  | .setArguments raws => builder.setArguments raws
  | .addConfig config => builder.addConfig config
  | .addSource source => builder.addSource source
  | .setPolicy policy => builder.setPolicy policy
  | .addArgs args => builder.addArgs args

/-- The inputs that a call adds. -/
def added : BuilderCall σ → List (Pending σ)
  | .addArgument raw => [.argument raw]
  | .setArguments raws => raws.map .argument
  | .addConfig config => [.described config]
  | .addSource source => [.ready source]
  | .setPolicy _ => []
  | .addArgs args => args.inputs.map .argument

/-- Whether a call replaces the arguments of earlier ones. -/
def replaces : BuilderCall σ → Bool
  | .setArguments _ => true
  | _ => false

end BuilderCall

/-- A builder after some calls. -/
def Builder.after (calls : List (BuilderCall σ)) (builder : Builder σ) : Builder σ :=
  calls.foldl BuilderCall.apply builder

/-- A new builder, or that of a description. -/
def Builder.begin : Option StreamConfig → Builder σ
  | none => .empty
  | some config => .ofConfig config

/-- The inputs of a description, if there is one. -/
def describedInputs : Option StreamConfig → List (Pending σ)
  | none => []
  | some config => config.inputs.map .described

/-- Those of some inputs that stay through later calls: all, or those that are no arguments if one of the calls
replaces these. -/
def staying (later : List (BuilderCall σ)) (inputs : List (Pending σ)) : List (Pending σ) :=
  if later.any BuilderCall.replaces then inputs.filter (!·.isArgument) else inputs

/-- Those of the inputs that some calls add that stay through the calls behind. -/
def kept : List (BuilderCall σ) → List (Pending σ)
  | [] => []
  | call :: later => staying later call.added ++ kept later

/-! ## The inputs of a builder -/

theorem staying_append (later : List (BuilderCall σ)) (front back : List (Pending σ)) :
    staying later (front ++ back) = staying later front ++ staying later back := by
  unfold staying
  split
  · exact List.filter_append ..
  · rfl

theorem staying_append_calls (front back : List (BuilderCall σ)) (inputs : List (Pending σ)) :
    staying (front ++ back) inputs = staying back (staying front inputs) := by
  cases hfront : front.any BuilderCall.replaces <;> cases hback : back.any BuilderCall.replaces <;>
    simp [staying, hfront, hback]

theorem staying_of_none {later : List (BuilderCall σ)} (hnone : ∀ call ∈ later, call.replaces = false)
    (inputs : List (Pending σ)) : staying later inputs = inputs := by
  have hany : later.any BuilderCall.replaces = false := by simpa using hnone
  rw [staying, hany]
  rfl

/-- What is no argument stays in any case. -/
theorem filter_staying (later : List (BuilderCall σ)) (inputs : List (Pending σ)) :
    (staying later inputs).filter (!·.isArgument) = inputs.filter (!·.isArgument) := by
  unfold staying
  split
  · rw [List.filter_filter]
    simp only [Bool.and_self]
  · rfl

/-- All that was added is kept if no call replaces arguments. -/
theorem kept_of_none {calls : List (BuilderCall σ)} (hnone : ∀ call ∈ calls, call.replaces = false) :
    kept calls = calls.flatMap BuilderCall.added := by
  induction calls with
  | nil => rfl
  | cons call later ih =>
    have hlater := (List.forall_mem_cons.1 hnone).2
    rw [kept, staying_of_none hlater, ih hlater, List.flatMap_cons]

theorem kept_append (front back : List (BuilderCall σ)) :
    kept (front ++ back) = staying back (kept front) ++ kept back := by
  induction front with
  | nil => rw [kept, staying, List.filter_nil, ite_self]; rfl
  | cons call later ih =>
    rw [List.cons_append, kept, kept, ih, staying_append_calls, staying_append, List.append_assoc]

theorem filter_kept (calls : List (BuilderCall σ)) :
    (kept calls).filter (!·.isArgument) = (calls.flatMap BuilderCall.added).filter (!·.isArgument) := by
  induction calls with
  | nil => rfl
  | cons call later ih =>
    rw [kept, List.filter_append, filter_staying, ih, List.flatMap_cons, List.filter_append]

/-- **Of the arguments, those of the last call that replaces them are kept, and those added behind it.** -/
theorem kept_of_last (front : List (BuilderCall σ)) (raws : List String) {behind : List (BuilderCall σ)}
    (hnone : ∀ call ∈ behind, call.replaces = false) :
    kept (front ++ .setArguments raws :: behind)
      = (front.flatMap BuilderCall.added).filter (!·.isArgument)
        ++ (raws.map .argument ++ behind.flatMap BuilderCall.added) := by
  have hstaying : staying (.setArguments raws :: behind) (kept front)
      = (front.flatMap BuilderCall.added).filter (!·.isArgument) := filter_kept front
  rw [kept_append, hstaying, kept, staying_of_none hnone, kept_of_none hnone]
  rfl

/-- Inputs that were described stay. -/
theorem staying_describedInputs (later : List (BuilderCall σ)) (config? : Option StreamConfig) :
    staying later (describedInputs config?) = describedInputs config? := by
  unfold staying
  split
  · cases config? with
    | none => rfl
    | some config =>
      rw [describedInputs, List.filter_eq_self]
      intro input hinput
      obtain ⟨given, -, rfl⟩ := List.mem_map.1 hinput
      rfl
  · rfl

namespace Builder

theorem inputs_begin (config? : Option StreamConfig) :
    (begin config? : Builder σ).inputs = describedInputs config? := by
  cases config? <;> rfl

/-- Arguments are added one by one. -/
theorem inputs_addArgs (args : InputArgs) (builder : Builder σ) :
    (builder.addArgs args).inputs = builder.inputs ++ args.inputs.map .argument := by
  obtain ⟨raws⟩ := args
  unfold addArgs
  induction raws generalizing builder with
  | nil => exact (List.append_nil _).symm
  | cons raw rest ih =>
    rw [List.foldl_cons, ih, List.map_cons, addArgument, add]
    exact List.append_assoc ..

/-- **What one call does to the inputs.** -/
theorem inputs_apply (call : BuilderCall σ) (builder : Builder σ) :
    (call.apply builder).inputs = staying [call] builder.inputs ++ call.added := by
  cases call with
  | addArgs args => exact inputs_addArgs args builder
  | setPolicy policy => exact (List.append_nil _).symm
  | _ => rfl

/-- **What several calls do to them.** -/
theorem inputs_after (calls : List (BuilderCall σ)) (builder : Builder σ) :
    (builder.after calls).inputs = staying calls builder.inputs ++ kept calls := by
  induction calls generalizing builder with
  | nil => exact (List.append_nil _).symm
  | cons call later ih =>
    show (after later (call.apply builder)).inputs = _
    rw [ih, inputs_apply, staying_append, kept, List.append_assoc, ← staying_append_calls]
    rfl

end Builder

/-! ## The calls of two builders -/

/-- The two identifiers of a source, its own and that of its provider. -/
def Source.names (source : Source σ) : String × String :=
  (source.id, source.provider.name)

namespace BuilderCall

/-- A call that adds the inputs of a command line, spelled as calls that add them one by one. -/
def spelled : BuilderCall σ → List (BuilderCall σ)
  | .addArgs args => args.inputs.map .addArgument
  | call => [call]

/-- Calls that correspond in two builders. Sources that are ready have the same identifiers. There is no call that
adds the inputs of a command line, which one of the builders does not take. -/
inductive Alike : BuilderCall σ → BuilderCall τ → Prop where
  | addArgument (raw : String) : Alike (.addArgument raw) (.addArgument raw)
  | setArguments (raws : List String) : Alike (.setArguments raws) (.setArguments raws)
  | addConfig (config : InputConfig) : Alike (.addConfig config) (.addConfig config)
  | addSource {source : Source σ} {source' : Source τ} (h : source'.names = source.names) :
      Alike (.addSource source) (.addSource source')
  | setPolicy (policy : Policy) : Alike (.setPolicy policy) (.setPolicy policy)

end BuilderCall

/-- Inputs that are asked for alike in two builders. Sources that are ready have the same identifiers. -/
abbrev Pending.Alike : Pending σ → Pending τ → Prop :=
  Pending.Matches fun source source' => source'.names = source.names

/-- The inputs of two builders are asked for alike, one by one. -/
abbrev InputsAlike : List (Pending σ) → List (Pending τ) → Prop :=
  List.Forall₂ Pending.Alike

namespace InputsAlike

theorem map {α : Type} {given : α → Pending σ} {given' : α → Pending τ} (h : ∀ a, (given a).Alike (given' a))
    (all : List α) : InputsAlike (all.map given) (all.map given') :=
  List.forall₂_map_left_iff.2 (List.forall₂_map_right_iff.2 (List.forall₂_same.2 fun a _ => h a))

theorem describedInputs (config? : Option StreamConfig) :
    InputsAlike (describedInputs config? : List (Pending σ)) (describedInputs config? : List (Pending τ)) := by
  cases config? with
  | none => exact .nil
  | some config => exact InputsAlike.map .described config.inputs

end InputsAlike

/-- If the one input can be used, so can the other, and the sources they name have the same identifiers. -/
theorem Pending.Names.of_alike {input : Pending σ} {source : Source σ} (hnames : input.Names source)
    {input' : Pending τ} (h : input.Alike input') :
    ∃ source', input'.Names source' ∧ source'.names = source.names := by
  cases h with
  | argument raw =>
    cases hnames with
    | standardInput => exact ⟨_, .standardInput, rfl⟩
    | path hsome hpath => exact ⟨_, .path hsome hpath, rfl⟩
  | described config =>
    cases hnames with
    | described hnames =>
      cases hnames with
      | standardInput hkind => exact ⟨_, .described (.standardInput hkind), rfl⟩
      | file hkind hpath hsome => exact ⟨_, .described (.file hkind hpath hsome), rfl⟩
      | inline hkind hcontent => exact ⟨_, .described (.inline hkind hcontent), rfl⟩
  | ready hready =>
    cases hnames with
    | ready => exact ⟨_, .ready _, hready⟩

/-- If all of the one builder's inputs can be used, so can those of the other, and the sources they name have the
same identifiers, in order. -/
theorem InputsAlike.names {inputs : List (Pending σ)} {inputs' : List (Pending τ)} (h : InputsAlike inputs inputs')
    (husable : ∀ input ∈ inputs, input.Usable) :
    (∀ input' ∈ inputs', input'.Usable)
      ∧ (resolvedSources inputs').map Source.names = (resolvedSources inputs).map Source.names := by
  induction h with
  | nil => exact ⟨List.forall_mem_nil _, rfl⟩
  | @cons input input' rest rest' hinput _ ih =>
    obtain ⟨hfirst, hrest⟩ := List.forall_mem_cons.1 husable
    obtain ⟨hlater, hnames⟩ := ih hrest
    obtain ⟨source, hsource⟩ := (input.resolve_cases).resolve_right fun ⟨defect, hdefect, _⟩ => by
      cases (Pending.usable_iff_defect?.1 hfirst).symm.trans hdefect
    obtain ⟨source', hsource', hsame⟩ := hsource.of_alike hinput
    refine ⟨List.forall_mem_cons.2 ⟨hsource'.usable, hlater⟩, ?_⟩
    rw [resolvedSources_cons_of_ok (Pending.resolve_of_names hsource'),
      resolvedSources_cons_of_ok (Pending.resolve_of_names hsource), List.map_cons, List.map_cons, hsame, hnames]

/-- Every source has the identifier of its input. -/
theorem ids_of_names {inputs : List (Pending σ)} {sources : List (Source σ)}
    (h : List.Forall₂ Pending.Names inputs sources) : SourceList.ids sources = inputs.map Pending.id := by
  induction h with
  | nil => rfl
  | cons hnames _ ih => exact congrArg₂ List.cons hnames.id_eq ih

/-- Standard input stands in for no sources at all, in either builder. -/
theorem SourceList.names_ofList {sources : List (Source σ)} {sources' : List (Source τ)}
    (h : sources'.map Source.names = sources.map Source.names) :
    (ofList sources').sources.map Source.names = (ofList sources).sources.map Source.names := by
  cases sources with
  | nil =>
    obtain rfl := List.map_eq_nil_iff.1 h
    rfl
  | cons first rest =>
    obtain ⟨first', rest', rfl, -, -⟩ := List.map_eq_cons_iff.1 h
    exact h

namespace Builder

/-- Spelled calls come to the same. -/
theorem after_spelled (calls : List (BuilderCall σ)) (builder : Builder σ) :
    builder.after (calls.flatMap BuilderCall.spelled) = builder.after calls := by
  induction calls generalizing builder with
  | nil => rfl
  | cons call later ih =>
    have hspelled : builder.after call.spelled = call.apply builder := by
      cases call with
      | addArgs args => exact List.foldl_map
      | _ => rfl
    have happend : builder.after (call.spelled ++ later.flatMap BuilderCall.spelled)
        = (builder.after call.spelled).after (later.flatMap BuilderCall.spelled) := List.foldl_append
    rw [List.flatMap_cons, happend, hspelled, ih]
    rfl

/-- **Calls that correspond keep the inputs of two builders alike.** -/
theorem inputsAlike_apply {call : BuilderCall σ} {call' : BuilderCall τ} (hcall : call.Alike call')
    {builder : Builder σ} {builder' : Builder τ} (h : InputsAlike builder.inputs builder'.inputs) :
    InputsAlike (call.apply builder).inputs (call'.apply builder').inputs := by
  cases hcall with
  | addArgument raw => exact List.rel_append h (.cons (.argument raw) .nil)
  | setArguments raws =>
    refine List.rel_append (List.rel_filter ?_ h) (InputsAlike.map .argument raws)
    intro input input' hinput
    cases hinput <;> rfl
  | addConfig config => exact List.rel_append h (.cons (.described config) .nil)
  | addSource hsource => exact List.rel_append h (.cons (.ready hsource) .nil)
  | setPolicy policy => exact h

theorem inputsAlike_after {calls : List (BuilderCall σ)} {calls' : List (BuilderCall τ)}
    (hcalls : List.Forall₂ BuilderCall.Alike calls calls') {builder : Builder σ} {builder' : Builder τ}
    (h : InputsAlike builder.inputs builder'.inputs) :
    InputsAlike (builder.after calls).inputs (builder'.after calls').inputs := by
  induction hcalls generalizing builder builder' with
  | nil => exact h
  | cons hcall _ ih => exact ih (inputsAlike_apply hcall h)

end Builder

/-- **What is built after any calls.** Of a new builder or that of a description, and after any calls, the inputs
of the description are kept and behind them, in the order of the calls, all that these add; but if a call replaces
the arguments, only those arguments that the last such call adds or a call behind it. If all that is kept can be
used, the list of the sources it names is built, each under the identifier of its input, and if nothing is kept,
the list of standard input. After the calls that correspond, the other builder builds a list with the same
identifiers of sources and providers, in the same order. -/
theorem kept_inputs_built (config? : Option StreamConfig) (calls : List (BuilderCall σ))
    (husable : ∀ input ∈ describedInputs config? ++ kept calls, input.Usable) :
    let inputs := describedInputs config? ++ kept calls
    ((∀ call ∈ calls, call.replaces = false) → kept calls = calls.flatMap BuilderCall.added)
      ∧ (∀ front raws behind, calls = front ++ .setArguments raws :: behind →
          (∀ call ∈ behind, call.replaces = false) →
          kept calls = (front.flatMap BuilderCall.added).filter (!·.isArgument)
            ++ (raws.map .argument ++ behind.flatMap BuilderCall.added))
      ∧ ∃ list, ((Builder.begin config?).after calls).build = .ok list ∧ list.position = 0
        ∧ (inputs ≠ [] → List.Forall₂ Pending.Names inputs list.sources
            ∧ SourceList.ids list.sources = inputs.map Pending.id)
        ∧ (inputs = [] → list.sources = [Source.standardInput])
        ∧ ∀ calls' : List (BuilderCall τ),
            List.Forall₂ BuilderCall.Alike (calls.flatMap BuilderCall.spelled) calls' →
            ∃ list', ((Builder.begin config?).after calls').build = .ok list' ∧ list'.position = 0
              ∧ list'.sources.map Source.names = list.sources.map Source.names := by
  intro inputs
  have hinputs : ((Builder.begin config?).after calls).inputs = inputs := by
    rw [Builder.inputs_after, Builder.inputs_begin, staying_describedInputs]
  have hall : ∀ input ∈ ((Builder.begin config?).after calls).inputs, input.Usable := by
    rw [hinputs]
    exact husable
  have hbuild := Builder.build_of_usable hall
  obtain ⟨hposition, hnames, hnone⟩ := Builder.names_of_build hbuild
  rw [hinputs] at hbuild hnames hnone
  refine ⟨kept_of_none, ?_, _, hbuild, hposition, fun hsome => ⟨hnames hsome, ids_of_names (hnames hsome)⟩,
    hnone, ?_⟩
  · rintro front raws behind rfl hbehind
    exact kept_of_last front raws hbehind
  · intro calls' hcalls
    have halike : InputsAlike ((Builder.begin config?).after calls).inputs
        ((Builder.begin config?).after calls').inputs := by
      rw [← Builder.after_spelled]
      apply Builder.inputsAlike_after hcalls
      rw [Builder.inputs_begin, Builder.inputs_begin]
      exact InputsAlike.describedInputs config?
    obtain ⟨hall', hsame⟩ := halike.names hall
    rw [hinputs] at hsame
    exact ⟨_, Builder.build_of_usable hall', rfl, SourceList.names_ofList hsame⟩

/-- An empty argument that is replaced, between a description and a source that are kept; then a description and two
inputs of a command line, which the other builder is given one by one. -/
theorem kept_inputs_built_replaced :
    let config : StreamConfig := { inputs := [.inline "t" "x"] }
    let calls : List (BuilderCall Script) :=
      [.addArgument "", .addSource ⟨"s", .memory "m" []⟩, .setArguments ["a"], .setPolicy .failFast,
        .addConfig (.stdin "c"), .addArgs ⟨["-", "b"]⟩]
    let polled : List (BuilderCall PolledScript) :=
      [.addArgument "", .addSource ⟨"s", .memory "m" []⟩, .setArguments ["a"], .setPolicy .failFast,
        .addConfig (.stdin "c"), .addArgument "-", .addArgument "b"]
    (∀ input ∈ describedInputs (some config) ++ kept calls, input.Usable)
      ∧ List.Forall₂ BuilderCall.Alike (calls.flatMap BuilderCall.spelled) polled
      ∧ ∃ list list', ((Builder.begin (some config)).after calls).build = .ok list
        ∧ ((Builder.begin (some config)).after polled).build = .ok list'
        ∧ SourceList.ids list.sources = ["t", "s", "a", "c", "-", "b"]
        ∧ list'.sources.map Source.names = list.sources.map Source.names := by
  intro config calls polled
  have husable : ∀ input ∈ describedInputs (some config) ++ kept calls, input.Usable := by decide
  have hcalls : List.Forall₂ BuilderCall.Alike (calls.flatMap BuilderCall.spelled) polled :=
    .cons (.addArgument _) (.cons (.addSource rfl) (.cons (.setArguments _) (.cons (.setPolicy _)
      (.cons (.addConfig _) (.cons (.addArgument _) (.cons (.addArgument _) .nil))))))
  obtain ⟨-, -, list, hlist, -, hids, -, hother⟩ :=
    @kept_inputs_built Script PolledScript (some config) calls husable
  obtain ⟨list', hlist', -, hsame⟩ := hother polled hcalls
  exact ⟨husable, hcalls, list, list', hlist, hlist', (hids (by simp [describedInputs, config])).2, hsame⟩

end InputChain
