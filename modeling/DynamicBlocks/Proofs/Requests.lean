import DynamicBlocks.Component.Props
import DynamicBlocks.Loop.Target
import DynamicBlocks.Proofs.Failures

/-!
# Requests for items

While targets are followed and properties are evaluated, items are asked for, and each time the cache may change.
Nothing else does, and whatever is done with items is decided by the items alone. This file says so once for all
actions that find items (`Asking`), so that what a single request keeps is kept by all of them. It bounds their
failures along the way.
-/

set_option autoImplicit false

namespace DynamicBlocks

/-! ## Actions that ask -/

/-- An action that does nothing to the state but ask a service for items, one request after the other, and fails by
itself with some failures only. -/
inductive Asking (service : LoopService) (p : Failure → Prop) : {α : Type} → LoopM α → Prop where
  /-- Nothing is asked for. -/
  | settled {α : Type} (outcome : Except Failure α) (fails : OnlyFails p outcome) :
      Asking service p (fun s => (outcome, s))
  /-- Items are asked for, and they decide what is next. -/
  | request {α : Type} (name : Value) (params : Entries) (next : Value → LoopM α)
      (rest : ∀ items, Asking service p (next items)) : Asking service p (service.items name params >>= next)

namespace Asking

variable {service : LoopService} {p : Failure → Prop} {α β : Type}

/-- A value asks for nothing. -/
theorem pure (x : α) : Asking service p (Pure.pure x : LoopM α) := settled (.ok x) (.ok x)

/-- An outcome asks for nothing. -/
theorem ofExcept {outcome : Except Failure α} (fails : OnlyFails p outcome) :
    Asking service p (DynamicBlocks.ofExcept outcome) := settled outcome fails

/-- Two actions one after the other: an induction on the requests of the first. -/
theorem bind {action : LoopM α} {next : α → LoopM β} (first : Asking service p action)
    (second : ∀ x, Asking service p (next x)) : Asking service p (action >>= next) := by
  induction first with
  | settled outcome fails =>
    cases outcome with
    | error f => exact settled (.error f) (.error (fails f rfl))
    | ok x => exact second x
  | request name params rest _ ih =>
    rw [bind_assoc]
    exact request name params _ fun items => ih items

/-- A function of what was asked for asks for nothing more. -/
theorem map {action : LoopM α} (f : α → β) (h : Asking service p action) : Asking service p (f <$> action) :=
  h.bind fun x => pure (f x)

/-- A request for items asks for them. -/
theorem items (name : Value) (params : Entries) : Asking service p (service.items name params) := by
  have same : Asking service p (service.items name params >>= Pure.pure) :=
    request name params Pure.pure fun items => pure items
  rwa [bind_pure] at same

/-- What every request keeps, an action that asks keeps. -/
theorem keeps {action : LoopM α} (h : Asking service p action) (kept : LoopState → Prop)
    (each : ∀ name params s, kept s → kept (service.items name params s).2) (s : LoopState) (before : kept s) :
    kept (action s).2 := by
  induction h generalizing s with
  | settled outcome => exact before
  | request name params next _ ih =>
    have step := each name params s before
    show kept (ExceptT.bindCont next (service.items name params s).1 (service.items name params s).2).2
    cases (service.items name params s).1 with
    | error f => exact step
    | ok items => exact ih items _ step

/-- If every request comes to the same from two related states and leaves related states behind, then so does an
action that asks. -/
theorem agrees {action : LoopM α} (h : Asking service p action) (related : LoopState → LoopState → Prop)
    (each : ∀ name params s t, related s t → (service.items name params s).1 = (service.items name params t).1 ∧
      related (service.items name params s).2 (service.items name params t).2)
    (s t : LoopState) (before : related s t) :
    (action s).1 = (action t).1 ∧ related (action s).2 (action t).2 := by
  induction h generalizing s t with
  | settled outcome => exact ⟨rfl, before⟩
  | request name params next _ ih =>
    obtain ⟨same, step⟩ := each name params s t before
    show (ExceptT.bindCont next (service.items name params s).1 (service.items name params s).2).1 =
        (ExceptT.bindCont next (service.items name params t).1 (service.items name params t).2).1 ∧
      related (ExceptT.bindCont next (service.items name params s).1 (service.items name params s).2).2
        (ExceptT.bindCont next (service.items name params t).1 (service.items name params t).2).2
    rw [← same]
    cases (service.items name params s).1 with
    | error f => exact ⟨rfl, step⟩
    | ok items => exact ih items _ _ step

/-- A request is written down, or fails in a way that is forgiven. -/
theorem onlyFails_requestText [HasForgiven p] (id : String) (params : Entries) :
    OnlyFails p (requestText id params) := by
  refine (OnlyFails.write _ (.map params)).bind fun _ => ?_
  split
  · exact .ok _
  · exact .error (HasForgiven.forgiven _ rfl)

/-- A request fails only if it cannot be written down. -/
theorem onlyFails_items [HasForgiven p] (name : Value) (params : Entries) (s : LoopState) :
    OnlyFails p (service.items name params s).1 := by
  unfold LoopService.items
  cases service.preset? name with
  | none => exact .ok _
  | some preset =>
    have written : OnlyFails p (requestText preset.id params) := onlyFails_requestText _ _
    dsimp only
    cases text : requestText preset.id params with
    | error f => exact .error (written f text)
    | ok text => exact .ok _

/-- An action that asks fails as said, wherever it starts. -/
theorem onlyFails [HasForgiven p] {action : LoopM α} (h : Asking service p action) (s : LoopState) :
    OnlyFails p (action s).1 := by
  induction h generalizing s with
  | settled outcome fails => exact fails
  | request name params next _ ih =>
    have first : OnlyFails p (service.items name params s).1 := onlyFails_items name params s
    show OnlyFails p (ExceptT.bindCont next (service.items name params s).1 (service.items name params s).2).1
    cases outcome : (service.items name params s).1 with
    | error f => exact .error (first f outcome)
    | ok items => exact ih items _

end Asking

/-! ## Targets of loops -/

namespace Engine

variable {engine : Engine} {p : Failure → Prop} [HasContent p]

/-- The parameters of a call fail with what content fails with. -/
theorem onlyFails_callParams (modifiers : engine.modifiers.OnlyFails p) (sources : List Source)
    (args : List Argument) : OnlyFails p (engine.callParams sources args) := by
  refine .foldlM (fun arg _ params => ?_) _
  split
  · exact .ok _
  · split
    · exact .ok _
    · refine ((OnlyFails.evaluate modifiers sources _).bind fun _ => .ok _).bind fun found => ?_
      cases found <;> exact .ok _

/-- So does a text that may name a collection. -/
theorem onlyFails_collection? (modifiers : engine.modifiers.OnlyFails p) (sources : List Source) (text : String) :
    OnlyFails p (engine.collection? sources text) :=
  (OnlyFails.resolve modifiers sources _ _).bind fun _ => .ok _

/-- So do the parameters given beside a loop. -/
theorem onlyFails_givenParams (modifiers : engine.modifiers.OnlyFails p) (sources : List Source) (params : Value) :
    OnlyFails p (engine.givenParams sources params) := by
  have added (param : Value × Value) (params : Entries) : OnlyFails p (engine.addParam sources params param) := by
    unfold addParam
    split
    · split
      · exact .ok _
      · split
        · refine ((OnlyFails.evaluate modifiers sources _).bind fun _ => .ok _).bind fun found => ?_
          cases found <;> exact .ok _
        · exact .ok _
    · exact .ok _
  unfold givenParams
  split
  · exact (OnlyFails.asEntries params).bind fun given => .foldlM (fun param _ => added param) []
  · exact .ok _

/-- So do the items of a loop when they are modified. -/
theorem onlyFails_modifiedItems (modifiers : engine.modifiers.OnlyFails p) (sources : List Source) (items : Value)
    (target : String) : OnlyFails p (engine.modifiedItems sources items target) := by
  refine (OnlyFails.foldlM (fun segment _ v => ?_) _).bind fun _ => .ok _
  split
  · exact .applyModifier modifiers sources v _ _
  · exact .ok _

omit [HasContent p] in
/-- The items of a preset are asked for. -/
theorem asking_presetItems (name : String) (params : Entries) :
    Asking engine.loops p (engine.presetItems name params) :=
  .items _ _

/-- The items of a reference are asked for, if it has a key that names a preset. -/
theorem asking_ofReference (modifiers : engine.modifiers.OnlyFails p) (sources : List Source) (ref : LoopRef)
    (params : Entries) : Asking engine.loops p (engine.ofReference sources ref params) := by
  have items : OnlyFails p ref.items := .series ref.data
  unfold ofReference
  split
  · exact (Asking.ofExcept items).map _
  · split
    · exact asking_presetItems _ _
    · refine (Asking.ofExcept (onlyFails_collection? modifiers sources _)).bind fun found => ?_
      cases found with
      | none => exact (Asking.ofExcept items).map _
      | some v => exact .pure v

/-- What a target reaches from a value may be asked for. -/
theorem asking_reached (modifiers : engine.modifiers.OnlyFails p) (sources : List Source) (v : Value)
    (params : Entries) : Asking engine.loops p (engine.reached sources v params) := by
  unfold reached
  split
  · exact (asking_ofReference modifiers sources _ params).bind fun _ => .pure _
  · split
    · split
      · exact .pure _
      · split
        · exact (asking_presetItems _ _).bind fun _ => .pure _
        · refine (Asking.ofExcept (onlyFails_collection? modifiers sources _)).bind fun found => ?_
          cases found <;> exact .pure _
    · exact .pure _

/-- A step of a target may ask for items. -/
theorem asking_stepTo (modifiers : engine.modifiers.OnlyFails p) (sources : List Source) (current : Option Value)
    (segment : Segment) : Asking engine.loops p (engine.stepTo sources current segment) := by
  have ifAny (v : Value) (params : Entries) : Asking engine.loops p (engine.reachedIfAny sources v params) :=
    (asking_reached modifiers sources v params).bind fun _ => .pure _
  refine (Asking.ofExcept (onlyFails_callParams modifiers sources _)).bind fun params => ?_
  cases current with
  | none =>
    dsimp only
    split
    · exact (asking_presetItems _ _).bind fun _ => .pure _
    · exact (Asking.ofExcept (OnlyFails.resolve modifiers sources _ _)).bind fun v => ifAny v params
  | some v => exact ifAny _ params

omit [HasContent p] in
/-- Where each way to go on asks for items only, so does going on from what was found. -/
theorem asking_goOn {sources : List Source} {segments : List Segment}
    (each : ∀ current listed, Asking engine.loops p (engine.followTarget sources current listed segments))
    (found : Option (Value × Bool)) :
    Asking engine.loops p (match found with
      | none => Pure.pure []
      | some (w, listed) => engine.followTarget sources (some w) listed segments) := by
  cases found with
  | none => exact .pure _
  | some found => exact each _ _

/-- All steps of a target: an induction on the segments. -/
theorem asking_followTarget (modifiers : engine.modifiers.OnlyFails p) (sources : List Source)
    (current : Option Value) (listed : Bool) (segments : List Segment) :
    Asking engine.loops p (engine.followTarget sources current listed segments) := by
  induction segments generalizing current listed with
  | nil => unfold followTarget; exact .pure _
  | cons segment segments ih =>
    have byStep := (asking_stepTo modifiers sources current segment).bind (asking_goOn ih)
    cases current with
    | none => unfold followTarget; exact byStep
    | some v =>
      cases listed with
      | false => unfold followTarget; exact byStep
      | true =>
        have behind : OnlyFails p (engine.stepBehind sources v segment) := by
          unfold stepBehind
          split
          · exact .ok _
          · exact (OnlyFails.applyModifier modifiers sources v _ _).map _
        unfold followTarget
        refine (Asking.ofExcept behind).bind fun found => ?_
        cases found with
        | none => exact .pure _
        | some w =>
          dsimp only
          split
          · exact .pure _
          · exact ih _ _

/-- A target may ask for items at each of its steps. -/
theorem asking_targetItems (modifiers : engine.modifiers.OnlyFails p) (sources : List Source) (target : String) :
    Asking engine.loops p (engine.targetItems sources target) := by
  unfold targetItems
  dsimp only
  split
  · exact .pure _
  · split
    · split
      · exact .pure _
      · split
        · exact asking_followTarget modifiers sources _ _ _
        · exact .pure _
    · exact asking_followTarget modifiers sources _ _ _

end Engine

/-! ## Properties of instances -/

namespace PropScope

variable {scope : PropScope} {service : LoopService} {p : Failure → Prop} [HasContent p]

/-- The key of a loop prop fails with what content fails with. -/
theorem onlyFails_loopKey (modifiers : scope.modifiers.OnlyFails p) (v : Value) : OnlyFails p (scope.loopKey v) := by
  unfold loopKey
  split
  · exact .ok _
  · refine (OnlyFails.display v).bind fun text => ?_
    dsimp only
    split
    · refine (OnlyFails.evaluate modifiers _ _).bind fun found => ?_
      split <;> exact .ok _
    · exact .ok _

/-- So does a text that may be a list. -/
theorem onlyFails_listOf? (modifiers : scope.modifiers.OnlyFails p) (expression : String) :
    OnlyFails p (scope.listOf? expression) := by
  unfold listOf?
  split
  · exact .ok _
  · refine (OnlyFails.evaluate modifiers _ _).bind fun found => ?_
    split <;> exact .ok _

/-- The data of an expression may be asked for. -/
theorem asking_expressionData (modifiers : scope.modifiers.OnlyFails p) (known : scope.loops = some service)
    (expression : String) : Asking service p (scope.expressionData expression) := by
  unfold expressionData
  split
  · exact .pure _
  · split
    · rename_i loops there
      unfold loopsKnowing at there
      rw [known] at there
      obtain ⟨rfl, -⟩ := Option.filter_eq_some_iff.mp there |>.imp Option.some.inj id
      exact .items _ _
    · exact (Asking.ofExcept (onlyFails_listOf? modifiers expression)).bind fun _ => .pure _

/-- The data of a loop prop may be asked for. -/
theorem asking_loopData (modifiers : scope.modifiers.OnlyFails p) (known : scope.loops = some service) (v : Value) :
    Asking service p (scope.loopData v) := by
  unfold loopData
  split
  · exact .pure _
  · exact .pure _
  · exact (Asking.ofExcept (OnlyFails.display v)).bind fun _ => asking_expressionData modifiers known _

/-- The value of a prop may be asked for. -/
theorem asking_propValue (modifiers : scope.modifiers.OnlyFails p) (known : scope.loops = some service)
    (definition : PropDefinition) (v : Value) : Asking service p (scope.propValue definition v) := by
  unfold propValue
  split
  · unfold loopValue
    split
    · exact .pure _
    · exact (Asking.ofExcept (onlyFails_loopKey modifiers v)).bind fun _ =>
        (asking_loopData modifiers known v).bind fun _ => .pure _
  · exact .ofExcept (OnlyFails.cast v _)

/-- The default of a prop may be asked for. -/
theorem asking_defaultValue (modifiers : scope.modifiers.OnlyFails p) (known : scope.loops = some service)
    (definition : PropDefinition) : Asking service p (scope.defaultValue definition) := by
  have given : OnlyFails p (scope.givenDefault definition.default) := by
    unfold givenDefault
    split
    · split
      · exact .ok _
      · exact .resolveContent modifiers _ _
    · exact .ok _
  unfold defaultValue
  split
  · exact .pure _
  · exact (Asking.ofExcept given).bind fun _ => asking_propValue modifiers known definition _

/-- The defaults of props ask for items one after the other. -/
theorem asking_defaults (modifiers : scope.modifiers.OnlyFails p) (known : scope.loops = some service)
    (definitions : List PropDefinition) : Asking service p (scope.defaults definitions) := by
  induction definitions with
  | nil => exact .pure _
  | cons definition definitions ih =>
    exact (asking_defaultValue modifiers known definition).bind fun _ => ih.bind fun _ => .pure _

/-- Properties with the given ones set: an induction on the attributes. -/
theorem asking_setGiven (modifiers : scope.modifiers.OnlyFails p) (known : scope.loops = some service)
    (definitions : List PropDefinition) (props attributes : List (String × Value)) :
    Asking service p (scope.setGiven definitions props attributes) := by
  induction attributes generalizing props with
  | nil => exact .pure _
  | cons given attributes ih =>
    obtain ⟨key, v⟩ := given
    unfold setGiven
    split
    · exact ih _
    · split
      · exact ih _
      · exact (asking_propValue modifiers known _ _).bind fun _ => ih _

/-- The props of an instance ask for items one after the other. -/
theorem asking_properties (modifiers : scope.modifiers.OnlyFails p) (known : scope.loops = some service)
    (definitions : List PropDefinition) (attributes : List (String × Value)) :
    Asking service p (scope.properties definitions attributes) :=
  (asking_defaults modifiers known _).bind fun _ => asking_setGiven modifiers known _ _ attributes

end PropScope

end DynamicBlocks
