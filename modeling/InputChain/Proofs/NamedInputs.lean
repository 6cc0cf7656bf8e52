import InputChain.Proofs.ValueTokens

/-!
# Standard input among the inputs

The inputs of a command line are made of tokens and of the values of arguments, and tokens are added to them.
Whether standard input is among them is told before anything is built, and it is told as it will be: a list built of
them has standard input as an entry exactly then, in whatever mix of cases it was named. What cannot be built has an
empty token, and no value of an argument names one.

* `ArgsCall`, `InputArgs.after`: how inputs are made and added to.
* `ArgsCall.named`, `ArgsCall.lasting`, **`InputArgs.inputs_after`**: what is named by the calls that still count.
* `InputArgs.empty_mem_after_iff`: where an empty token comes from.
* `Builder.isStdin_iff_of_build`, `Builder.size_of_build_args`, **`Builder.build_args_eq_error_iff`**: what is built.
* **`isStdin_iff_built`**: all of this of any sequence of calls.
-/

namespace InputChain

/-! ## Calls -/

/-- How the inputs of a command line are made and added to. -/
inductive ArgsCall where
  /-- There are none. -/
  | empty
  /-- They are those of some tokens. -/
  | ofTokens (tokens : List String)
  /-- They are those of the value of an argument. -/
  | ofValue (value : Option String)
  /-- A token is added to them. -/
  | add (token : String)
  deriving DecidableEq, Repr

namespace ArgsCall

/-- The inputs after a call. -/
def apply (args : InputArgs) : ArgsCall → InputArgs
  | .empty => {}
  | .ofTokens tokens => .ofTokens tokens
  | .ofValue value => .ofValue? value
  | .add token => args.addInput token

/-- Whether a call puts its inputs in place of the earlier ones. -/
def replaces : ArgsCall → Bool
  | .add _ => false
  | _ => true

/-- The inputs that a call names. -/
def named : ArgsCall → List String
  | .empty => []
  | .ofTokens tokens => tokens.map normalizeToken
  | .ofValue value => (InputArgs.ofValue? value).inputs
  | .add token => [normalizeToken token]

/-- The calls that still count after all of these: the last that replaces the earlier inputs, and those behind. -/
def lasting : List ArgsCall → List ArgsCall
  | [] => []
  | call :: later => if later.any replaces then lasting later else call :: lasting later

/-- A call is given an empty token as such. -/
def GivesEmpty (call : ArgsCall) : Prop :=
  (∃ tokens, call = .ofTokens tokens ∧ "" ∈ tokens) ∨ call = .add ""

/-- What one call does to the inputs. -/
theorem inputs_apply (args : InputArgs) (call : ArgsCall) :
    (call.apply args).inputs = (if call.replaces then [] else args.inputs) ++ call.named := by
  cases call <;> rfl

end ArgsCall

/-- The inputs after some calls, of none at first. -/
def InputArgs.after (calls : List ArgsCall) : InputArgs :=
  calls.foldl ArgsCall.apply {}

namespace InputArgs

open ArgsCall

/-- Earlier inputs stay unless a call replaces them. -/
theorem inputs_foldl (calls : List ArgsCall) (args : InputArgs) :
    (calls.foldl ArgsCall.apply args).inputs
      = (if calls.any replaces then [] else args.inputs) ++ (lasting calls).flatMap named := by
  induction calls generalizing args with
  | nil => simp [lasting]
  | cons call later ih =>
    rw [List.foldl_cons, ih, inputs_apply, lasting, List.any_cons]
    by_cases hlater : later.any replaces
    · simp [hlater]
    · simp [hlater]

/-- **The inputs are those that the calls which still count name**, in order. -/
theorem inputs_after (calls : List ArgsCall) : (after calls).inputs = (lasting calls).flatMap named := by
  rw [after, inputs_foldl]
  simp

end InputArgs

/-! ## Tokens -/

theorem normalizeToken_eq_empty_iff {token : String} : normalizeToken token = "" ↔ token = "" := by
  unfold normalizeToken
  split_ifs with h
  · refine ⟨fun hdash => absurd hdash (by decide), ?_⟩
    rintro rfl
    exact absurd h (by decide +kernel)
  · exact Iff.rfl

namespace ArgsCall

/-- A call names an empty input if and only if it is given one as such: no value of an argument names one. -/
theorem empty_mem_named_iff (call : ArgsCall) : "" ∈ call.named ↔ call.GivesEmpty := by
  cases call with
  | empty => simp [named, GivesEmpty]
  | ofTokens tokens => simp [named, GivesEmpty, normalizeToken_eq_empty_iff]
  | ofValue value =>
    have hnone : "" ∉ (InputArgs.ofValue? value).inputs :=
      fun hempty => (isToken_of_mem_ofValue? value "" hempty).1.ne_empty rfl
    simp [named, GivesEmpty, hnone]
  | add token =>
    rw [named, List.mem_singleton, eq_comm, normalizeToken_eq_empty_iff]
    simp [GivesEmpty]

/-- Whatever a call names, it is no other spelling of standard input. -/
theorem toLower_of_mem_named (call : ArgsCall) : ∀ token ∈ call.named, token.toLower ≠ "stdin" := by
  cases call with
  | empty => exact fun _ hmem => nomatch hmem
  | ofTokens tokens => exact List.forall_mem_map.2 fun token _ => toLower_normalizeToken token
  | ofValue value => exact fun token hmem => (isToken_of_mem_ofValue? value token hmem).2
  | add token => exact List.forall_mem_singleton.2 (toLower_normalizeToken token)

end ArgsCall

namespace InputArgs

open ArgsCall

/-- **An empty token among the inputs was given as such**, in a call that still counts. -/
theorem empty_mem_after_iff (calls : List ArgsCall) :
    "" ∈ (after calls).inputs ↔ ∃ call ∈ lasting calls, call.GivesEmpty := by
  simp only [inputs_after, List.mem_flatMap, empty_mem_named_iff]

theorem toLower_of_mem_after (calls : List ArgsCall) : ∀ token ∈ (after calls).inputs, token.toLower ≠ "stdin" := by
  intro token htoken
  rw [inputs_after] at htoken
  obtain ⟨call, -, hnamed⟩ := List.mem_flatMap.1 htoken
  exact call.toLower_of_mem_named token hnamed

end InputArgs

/-! ## What is built of arguments -/

section Built

variable {σ : Type}

/-- A raw argument names standard input by its identifier and by nothing else. -/
theorem Pending.Names.standardInput_iff {raw : String} {source : Source σ}
    (hnames : (Pending.argument raw).Names source) : source.provider = .standardInput ↔ raw = standardInputId := by
  cases hnames with
  | standardInput => exact iff_of_true rfl rfl
  | path hsome hpath => exact iff_of_false nofun hpath

theorem exists_standardInput_iff {raws : List String} {sources : List (Source σ)}
    (hnames : List.Forall₂ Pending.Names (raws.map Pending.argument) sources) :
    (∃ source ∈ sources, source.provider = .standardInput) ↔ standardInputId ∈ raws := by
  rw [List.forall₂_map_left_iff] at hnames
  induction hnames with
  | nil => simp
  | cons hfirst _ ih => simp [hfirst.standardInput_iff, ih, eq_comm]

namespace Builder

variable {args : InputArgs} {list : SourceList σ}

theorem inputs_empty_addArgs (args : InputArgs) :
    (empty.addArgs args : Builder σ).inputs = args.inputs.map Pending.argument :=
  inputs_addArgs args empty

/-- What is built of some arguments alone: one source of each, or standard input. -/
theorem sources_of_build_args (hbuild : (empty.addArgs args).build = .ok list) :
    (args.inputs ≠ [] ∧ List.Forall₂ Pending.Names (args.inputs.map Pending.argument) list.sources)
      ∨ (args.inputs = [] ∧ list.sources = [Source.standardInput]) := by
  obtain ⟨-, hsome, hnone⟩ := names_of_build hbuild
  rw [inputs_empty_addArgs] at hsome hnone
  by_cases hinputs : args.inputs = []
  · exact Or.inr ⟨hinputs, hnone (by rw [hinputs]; rfl)⟩
  · exact Or.inl ⟨hinputs, hsome fun hnil => hinputs (List.map_eq_nil_iff.1 hnil)⟩

/-- **Standard input is told to be among the inputs if and only if it is among the sources that are built.** -/
theorem isStdin_iff_of_build (hbuild : (empty.addArgs args).build = .ok list) :
    args.isStdin = true ↔ ∃ source ∈ list.sources, source.provider = .standardInput := by
  rcases sources_of_build_args hbuild with ⟨hsome, hnames⟩ | ⟨hnone, hsources⟩
  · rw [exists_standardInput_iff hnames]
    simp [InputArgs.isStdin, hsome]
  · simp [InputArgs.isStdin, hnone, hsources, Source.standardInput]

/-- The sources have the inputs for identifiers. -/
theorem ids_of_build_args (hbuild : (empty.addArgs args).build = .ok list) :
    SourceList.ids list.sources = if args.inputs = [] then [standardInputId] else args.inputs := by
  rcases sources_of_build_args hbuild with ⟨hsome, hnames⟩ | ⟨hnone, hsources⟩
  · rw [if_neg hsome, ids_of_names hnames, List.map_map]
    exact List.map_id args.inputs
  · rw [if_pos hnone, hsources]
    rfl

/-- The list has as many entries as there are inputs, and always one. -/
theorem size_of_build_args (hbuild : (empty.addArgs args).build = .ok list) :
    list.size = max 1 args.inputs.length := by
  have hlength := congrArg List.length (ids_of_build_args hbuild)
  rw [SourceList.ids, List.length_map] at hlength
  rw [SourceList.size, hlength]
  split_ifs with hinputs
  · rw [hinputs]
    rfl
  · have hpos := List.length_pos_iff.2 hinputs
    omega

/-- **Of arguments alone nothing can be built if and only if one of them is empty.** -/
theorem build_args_eq_error_iff :
    (∃ aggregate, (empty.addArgs args : Builder σ).build = .error aggregate) ↔ "" ∈ args.inputs := by
  have husable : (∀ input ∈ (empty.addArgs args : Builder σ).inputs, input.Usable) ↔ "" ∉ args.inputs := by
    rw [inputs_empty_addArgs, List.forall_mem_map]
    exact ⟨fun hall hempty => hall "" hempty rfl, fun hnone raw hraw hempty => hnone (hempty ▸ hraw)⟩
  rw [← not_iff_not, ← husable, ← build_eq_ok_iff]
  cases (empty.addArgs args : Builder σ).build <;> simp

end Builder

end Built

/-- **Standard input is told to be read if and only if it will be.** After any calls, what a new builder makes of the
inputs has standard input as an entry exactly if they say so; it has one entry of each input, or of standard input if
there are none; and no entry is another spelling of standard input. Nothing can be built if and only if there is an
empty token among the inputs, and there is one if and only if it was given as such, as one of some tokens or as a
token that was added, in a call whose inputs were not replaced. -/
theorem isStdin_iff_built {σ : Type} (calls : List ArgsCall) :
    let args := InputArgs.after calls
    let built : Except AggregateError (SourceList σ) := (Builder.empty.addArgs args).build
    (∀ list, built = .ok list →
        (args.isStdin = true ↔ ∃ source ∈ list.sources, source.provider = .standardInput)
          ∧ list.size = max 1 args.inputs.length
          ∧ ∀ source ∈ list.sources, source.id.toLower ≠ "stdin")
      ∧ ((∃ aggregate, built = .error aggregate) ↔ "" ∈ args.inputs)
      ∧ ("" ∈ args.inputs ↔ ∃ call ∈ ArgsCall.lasting calls,
          (∃ tokens, call = .ofTokens tokens ∧ "" ∈ tokens) ∨ call = .add "") := by
  intro args built
  refine ⟨fun list hlist => ⟨Builder.isStdin_iff_of_build hlist, Builder.size_of_build_args hlist, ?_⟩,
    Builder.build_args_eq_error_iff, InputArgs.empty_mem_after_iff calls⟩
  intro source hsource
  have hid : source.id ∈ SourceList.ids list.sources := List.mem_map_of_mem hsource
  rw [Builder.ids_of_build_args hlist] at hid
  split_ifs at hid
  · rw [List.mem_singleton.1 hid]
    decide +kernel
  · exact InputArgs.toLower_of_mem_after calls _ hid

/-- An empty token that is replaced by the inputs of a value, a path with a blank in front of it among them; then
standard input in a mix of cases is added. -/
theorem isStdin_iff_built_replaced :
    let calls : List ArgsCall := [.ofTokens ["", "a"], .ofValue (some "b, c,"), .add "StdIn"]
    ∃ list : SourceList Script, (Builder.empty.addArgs (InputArgs.after calls)).build = .ok list
      ∧ (∃ source ∈ list.sources, source.provider = .standardInput) ∧ list.size = 3 := by
  intro calls
  have hinputs : (InputArgs.after calls).inputs = ["b", "c", "-"] := by decide +kernel
  obtain ⟨hlist, herror, -⟩ := @isStdin_iff_built Script calls
  cases hbuilt : (Builder.empty.addArgs (InputArgs.after calls) : Builder Script).build with
  | error aggregate =>
    have hempty := herror.1 ⟨aggregate, hbuilt⟩
    rw [hinputs] at hempty
    exact absurd hempty (by decide)
  | ok list =>
    obtain ⟨hstdin, hsize, -⟩ := hlist list hbuilt
    rw [hinputs] at hsize
    exact ⟨list, rfl, hstdin.1 (by decide +kernel), hsize⟩

end InputChain
