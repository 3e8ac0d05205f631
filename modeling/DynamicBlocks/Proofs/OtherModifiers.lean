import DynamicBlocks.Proofs.Lockstep
import DynamicBlocks.Proofs.SlotSources

/-!
# Renders with other modifiers

A modifier may look at the sources in force. Two tables whose modifiers do the same where the sources are of some kind
cannot be told apart by anything that is resolved against such sources: neither by expressions and content, nor by what
loops and instances make of them. A render all of whose sources are of that kind is therefore the same with both tables.
The other way round, what all such tables come to agree on shows which sources a render resolves anything against.
-/

set_option autoImplicit false

namespace DynamicBlocks

open RenderM

/-! ## Modifiers that do the same -/

/-- Modifiers that do the same where the sources are good. -/
inductive Modifier.AlikeOn (good : List Source → Prop) : Modifier → Modifier → Prop where
  | refl (modifier : Modifier) : AlikeOn good modifier modifier
  | seeing {run run' : List Source → Value → Arguments → Except Failure Value}
      (same : ∀ sources, good sources → run sources = run' sources) : AlikeOn good (.scoped run) (.scoped run')

/-- Tables with the same names, whose modifiers do the same where the sources are good. -/
def ModifierTable.AlikeOn (good : List Source → Prop) (table table' : ModifierTable) : Prop :=
  ∀ name, Option.Rel (Modifier.AlikeOn good) (table.get? name) (table'.get? name)

/-- Tables with which everything is resolved to the same against sources. -/
structure ModifierTable.SameAt (table table' : ModifierTable) (sources : List Source) : Prop where
  applied : applyModifier table sources = applyModifier table' sources
  evaluated : evaluate table sources = evaluate table' sources
  resolved : resolve table sources = resolve table' sources

section

variable {good : List Source → Prop} {table table' : ModifierTable} {sources : List Source}

/-- Modifiers that are alike come to the same where data does. -/
theorem Modifier.AlikeOn.run_eq {modifier modifier' : Modifier} (alike : modifier.AlikeOn good modifier')
    (h : good sources) {data data' : DataResolver} (same : data sources = data' sources) :
    modifier.run data sources = modifier'.run data' sources := by
  cases alike with
  | refl =>
    funext v args
    rcases modifier with run | run | _
    · rfl
    · rfl
    · unfold Modifier.run
      dsimp only
      rw [same]
  | seeing alike =>
    funext v args
    exact congrFun (congrFun (alike sources h) v) args

/-- A call does the same with both tables. -/
theorem ModifierTable.AlikeOn.applyCall_eq (alike : table.AlikeOn good table') (h : good sources)
    {data data' : DataResolver} (same : data sources = data' sources) :
    applyCall table data sources = applyCall table' data' sources := by
  funext evaluate v name args
  have modifiers := alike name
  unfold applyCall
  generalize table.get? name = found at modifiers ⊢
  generalize table'.get? name = found' at modifiers ⊢
  cases modifiers with
  | none => rfl
  | some each =>
    dsimp only
    rw [each.run_eq h same]

/-- An argument comes to the same with both tables: an induction on its nesting. -/
theorem ModifierTable.AlikeOn.evaluateNested_eq (alike : table.AlikeOn good table') (h : good sources)
    {data data' : DataResolver} (same : data sources = data' sources) (nesting : Nat) :
    evaluateNested table data sources nesting = evaluateNested table' data' sources nesting := by
  induction nesting with
  | zero => rfl
  | succ nesting ih =>
    funext text
    unfold evaluateNested
    rw [ih, alike.applyCall_eq h same]

/-- Data comes to the same with both tables: an induction on how deep it asks for itself. -/
theorem ModifierTable.AlikeOn.resolveDataAt_eq (alike : table.AlikeOn good table') (h : good sources) (depth : Nat) :
    resolveDataAt table depth sources = resolveDataAt table' depth sources := by
  induction depth with
  | zero => rfl
  | succ depth ih =>
    have evaluated : evaluateText table (resolveDataAt table depth) sources =
        evaluateText table' (resolveDataAt table' depth) sources := by
      funext text
      unfold evaluateText
      rw [alike.evaluateNested_eq h ih]
    funext v
    unfold resolveDataAt
    rw [evaluated]

/-- With both tables everything is resolved to the same against good sources. -/
theorem ModifierTable.AlikeOn.sameAt (alike : table.AlikeOn good table') (h : good sources) :
    table.SameAt table' sources := by
  have data : resolveDataAt table dataDepth sources = resolveDataAt table' dataDepth sources :=
    alike.resolveDataAt_eq h dataDepth
  have nested := alike.evaluateNested_eq h data
  have called := alike.applyCall_eq h data
  have evaluated : evaluate table sources = evaluate table' sources := by
    funext text
    exact congrFun (nested (text.length + 1)) text
  refine ⟨?_, evaluated, ?_⟩
  · unfold applyModifier dataResolver
    rw [evaluated, called]
  · funext e keepLoop
    unfold resolve resolveAt resolveExpression
    rw [nested, called]

/-- Content comes to the same. -/
theorem ModifierTable.SameAt.resolveContent_eq (same : table.SameAt table' sources) :
    resolveContent table sources = resolveContent table' sources := by
  funext v
  unfold resolveContent
  rw [same.evaluated]

/-- Text comes to the same. -/
theorem ModifierTable.SameAt.substituteWith_eq (same : table.SameAt table' sources) (guard : String → String) :
    substituteWith guard table sources = substituteWith guard table' sources := by
  funext s
  unfold substituteWith
  rw [same.evaluated]

end

/-! ## Loops -/

namespace Engine

/-- The engine with another table of modifiers. -/
def withModifiers (engine : Engine) (table : ModifierTable) : Engine :=
  { engine with modifiers := table }

variable {engine : Engine} {table : ModifierTable} {sources : List Source}

section

variable (same : engine.modifiers.SameAt table sources)
include same

/-- The value of a parameter is the same with the other table. -/
theorem paramValue?_withModifiers : (engine.withModifiers table).paramValue? sources = engine.paramValue? sources := by
  funext raw
  unfold paramValue?
  rw [same.evaluated]
  rfl

/-- A parameter is added in the same way with the other table. -/
theorem addParam_withModifiers : (engine.withModifiers table).addParam sources = engine.addParam sources := by
  funext params param
  unfold addParam
  rw [paramValue?_withModifiers same]

/-- The parameters given beside a loop are the same with the other table. -/
theorem givenParams_withModifiers : (engine.withModifiers table).givenParams sources = engine.givenParams sources := by
  funext params
  unfold givenParams
  rw [addParam_withModifiers same]

/-- The parameters of a call are the same with the other table. -/
theorem callParams_withModifiers : (engine.withModifiers table).callParams sources = engine.callParams sources := by
  funext args
  unfold callParams
  rw [paramValue?_withModifiers same]

/-- The items of a loop are modified in the same way with the other table. -/
theorem modifiedItems_withModifiers :
    (engine.withModifiers table).modifiedItems sources = engine.modifiedItems sources := by
  funext items target
  unfold modifiedItems
  rw [same.applied]
  rfl

/-- The value of an expression is the same with the other table. -/
theorem valueOf_withModifiers : (engine.withModifiers table).valueOf sources = engine.valueOf sources := by
  funext text keepLoop
  unfold valueOf
  rw [same.resolved]
  rfl

/-- A text names the same collection with the other table. -/
theorem collection?_withModifiers : (engine.withModifiers table).collection? sources = engine.collection? sources := by
  funext text
  unfold collection?
  rw [valueOf_withModifiers same]

/-- A reference has the same items with the other table. -/
theorem ofReference_withModifiers :
    (engine.withModifiers table).ofReference sources = engine.ofReference sources := by
  funext ref params
  unfold ofReference
  rw [collection?_withModifiers same]
  rfl

/-- A target reaches the same from a value with the other table. -/
theorem reached_withModifiers : (engine.withModifiers table).reached sources = engine.reached sources := by
  funext v params
  unfold reached
  rw [collection?_withModifiers same, ofReference_withModifiers same]
  rfl

/-- It reaches something from the same values with the other table. -/
theorem reachedIfAny_withModifiers :
    (engine.withModifiers table).reachedIfAny sources = engine.reachedIfAny sources := by
  funext v params
  unfold reachedIfAny
  rw [reached_withModifiers same]

/-- The first step of a target leads to the same with the other table. -/
theorem stepTo_withModifiers : (engine.withModifiers table).stepTo sources = engine.stepTo sources := by
  funext current segment
  unfold stepTo
  rw [callParams_withModifiers same, valueOf_withModifiers same, reachedIfAny_withModifiers same]
  rfl

/-- So does every further step. -/
theorem stepBehind_withModifiers : (engine.withModifiers table).stepBehind sources = engine.stepBehind sources := by
  funext v segment
  unfold stepBehind
  rw [same.applied]
  rfl

/-- A target is followed to the same items: an induction on its segments. -/
theorem followTarget_withModifiers (current : Option Value) (listed : Bool) (segments : List Segment) :
    (engine.withModifiers table).followTarget sources current listed segments =
      engine.followTarget sources current listed segments := by
  induction segments generalizing current listed with
  | nil => cases current <;> cases listed <;> rfl
  | cons segment segments ih =>
    cases current with
    | none =>
      unfold followTarget
      rw [stepTo_withModifiers same]
      apply bind_congr
      intro found
      cases found with
      | none => rfl
      | some found => exact ih (some found.1) found.2
    | some v =>
      cases listed with
      | false =>
        unfold followTarget
        rw [stepTo_withModifiers same]
        apply bind_congr
        intro found
        cases found with
        | none => rfl
        | some found => exact ih (some found.1) found.2
      | true =>
        unfold followTarget
        rw [stepBehind_withModifiers same]
        apply bind_congr
        intro found
        cases found with
        | none => rfl
        | some w =>
          dsimp only
          rw [ih]

/-- A target has the same items with the other table. -/
theorem targetItems_withModifiers : (engine.withModifiers table).targetItems sources = engine.targetItems sources := by
  have followed (cs : List Char) :
      (engine.withModifiers table).expressionItems sources cs = engine.expressionItems sources cs :=
    followTarget_withModifiers same none false _
  funext target
  unfold targetItems
  simp only [followed]

end

end Engine

/-! ## Properties of instances -/

namespace PropScope

/-- The scope with another table of modifiers. -/
def withModifiers (scope : PropScope) (table : ModifierTable) : PropScope :=
  { scope with modifiers := table }

section

variable {scope : PropScope} {table : ModifierTable} (same : scope.modifiers.SameAt table scope.sources)
include same

/-- The key of a loop prop is the same with the other table. -/
theorem loopKey_withModifiers : (scope.withModifiers table).loopKey = scope.loopKey := by
  funext v
  unfold loopKey
  dsimp only [withModifiers]
  rw [same.evaluated]
  rfl

/-- A value is the same list with the other table. -/
theorem listOf?_withModifiers : (scope.withModifiers table).listOf? = scope.listOf? := by
  funext expression
  unfold listOf?
  dsimp only [withModifiers]
  rw [same.evaluated]
  rfl

/-- The value of a loop prop is the same with the other table. -/
theorem loopValue_withModifiers : (scope.withModifiers table).loopValue = scope.loopValue := by
  have data : (scope.withModifiers table).loopData = scope.loopData := by
    funext v
    unfold loopData expressionData
    rw [listOf?_withModifiers same]
    rfl
  funext v
  unfold loopValue
  rw [data, loopKey_withModifiers same]

/-- The value of any prop is the same with the other table. -/
theorem propValue_withModifiers : (scope.withModifiers table).propValue = scope.propValue := by
  funext definition v
  unfold propValue
  rw [loopValue_withModifiers same]

/-- The defaults of props are the same with the other table. -/
theorem defaults_withModifiers (definitions : List PropDefinition) :
    (scope.withModifiers table).defaults definitions = scope.defaults definitions := by
  have given : (scope.withModifiers table).givenDefault = scope.givenDefault := by
    funext v
    unfold givenDefault
    dsimp only [withModifiers]
    rw [same.resolveContent_eq]
    rfl
  induction definitions with
  | nil => rfl
  | cons definition definitions ih =>
    unfold defaults defaultValue
    rw [ih, given, propValue_withModifiers same]

/-- Given attributes are set in the same way with the other table. -/
theorem setGiven_withModifiers (definitions : List PropDefinition) (props attributes : List (String × Value)) :
    (scope.withModifiers table).setGiven definitions props attributes = scope.setGiven definitions props attributes := by
  induction attributes generalizing props with
  | nil => rfl
  | cons entry attributes ih =>
    obtain ⟨key, given⟩ := entry
    unfold setGiven
    simp only [ih, propValue_withModifiers same]

/-- The props of an instance are the same with the other table. -/
theorem properties_withModifiers : (scope.withModifiers table).properties = scope.properties := by
  funext definitions attributes
  unfold properties
  simp only [defaults_withModifiers same, setGiven_withModifiers same]

end

end PropScope

/-! ## Blocks -/

/-- The environment with another table of modifiers. -/
def Environment.withModifiers (env : Environment) (table : ModifierTable) : Environment :=
  { env with engine := env.engine.withModifiers table }

section

variable {env : Environment} {table : ModifierTable} {sources : List Source}

namespace Environment

variable (same : env.engine.modifiers.SameAt table sources)
include same

/-- The attributes of an element are the same with the other table. -/
theorem elementAttributes_withModifiers :
    (env.withModifiers table).elementAttributes sources = env.elementAttributes sources := by
  have each : (env.withModifiers table).elementAttribute sources = env.elementAttribute sources := by
    funext entry
    unfold elementAttribute resolveContent
    rw [same.resolveContent_eq]
    rfl
  funext attributes
  unfold elementAttributes
  rw [each]

/-- The attributes of an instance are the same with the other table. -/
theorem instanceAttributes_withModifiers :
    (env.withModifiers table).instanceAttributes sources = env.instanceAttributes sources := by
  funext block
  unfold instanceAttributes resolveContent
  rw [same.resolveContent_eq]
  rfl

end Environment

namespace RenderM

/-- What a loop goes over is the same with the other table. -/
theorem loopData_withModifiers (same : env.engine.modifiers.SameAt table sources) (block : Block) :
    loopData (env.withModifiers table) block sources = loopData env block sources := by
  have engine : (env.withModifiers table).engine = env.engine.withModifiers table := rfl
  unfold loopData
  rw [engine, Engine.targetItems_withModifiers same, Engine.givenParams_withModifiers same,
    Engine.modifiedItems_withModifiers same]
  rfl

variable {block : Block} {s : Session}

/-- A text comes to the same with the other table. -/
theorem renderText_withModifiers (same : env.engine.modifiers.SameAt table (s.context.sources block.context)) :
    renderText (env.withModifiers table) block s = renderText env block s := by
  unfold renderText
  cases block.content? with
  | none => rfl
  | some content =>
    have substituted : (env.withModifiers table).substitute (s.context.sources block.context) content =
        env.substitute (s.context.sources block.context) content := by
      unfold Environment.substitute
      rw [same.substituteWith_eq]
      rfl
    have read : sourcesOf block s = (.ok (s.context.sources block.context), s) := rfl
    dsimp only
    rw [bind_of_ok read, bind_of_ok read, substituted]
    rfl

/-- So does an element. -/
theorem renderElement_withModifiers (same : env.engine.modifiers.SameAt table (s.context.sources block.context))
    (inner : RenderM String) :
    renderElement (env.withModifiers table) block inner s = renderElement env block inner s := by
  have read : sourcesOf block s = (.ok (s.context.sources block.context), s) := rfl
  unfold renderElement
  rw [bind_of_ok read, bind_of_ok read, Environment.elementAttributes_withModifiers same]
  rfl

/-- So does a loop. -/
theorem renderLoop_withModifiers (same : env.engine.modifiers.SameAt table (s.context.sources block.context))
    (inner : RenderM String) : renderLoop (env.withModifiers table) block inner s = renderLoop env block inner s := by
  have read : sourcesOf block s = (.ok (s.context.sources block.context), s) := rfl
  unfold renderLoop
  rw [bind_of_ok read, bind_of_ok read, loopData_withModifiers same]

/-- The props of a block are the same with the other table. -/
theorem propsOf_withModifiers (same : env.engine.modifiers.SameAt table (s.context.sources block.context))
    (pattern : Pattern) : propsOf (env.withModifiers table) block pattern s = propsOf env block pattern s := by
  have scope : (env.withModifiers table).propScope (s.context.sources block.context) =
      (env.propScope (s.context.sources block.context)).withModifiers table := rfl
  have properties : ((env.propScope (s.context.sources block.context)).withModifiers table).properties =
      (env.propScope (s.context.sources block.context)).properties := PropScope.properties_withModifiers same
  rw [propsOf_apply, propsOf_apply, Environment.instanceAttributes_withModifiers same, scope, properties]

/-- A component comes to the same with the other table. -/
theorem renderComponent_withModifiers (same : env.engine.modifiers.SameAt table (s.context.sources block.context))
    (place : Place) (body : String → List Block → RenderM String) :
    renderComponent (env.withModifiers table) place block body s = renderComponent env place block body s := by
  unfold renderComponent
  split
  · rfl
  · -- Looking the pattern up leaves the sources as they are.
    rcases found : findPattern env block.ref s with ⟨outcome, t⟩
    have found' : findPattern (env.withModifiers table) block.ref s = (outcome, t) := found
    have kept : t.toSurroundings = s.toSurroundings := by
      rw [← Restores.findPattern env block.ref s, found]
    cases outcome with
    | error f => rw [bind_of_error found, bind_of_error found']
    | ok pattern =>
      rw [bind_of_ok found, bind_of_ok found']
      cases pattern with
      | none => rfl
      | some pattern =>
        dsimp only
        split
        · rfl
        · have props : propsOf (env.withModifiers table) block pattern t = propsOf env block pattern t := by
            apply propsOf_withModifiers
            rw [kept]
            exact same
          unfold renderInstance
          rcases made : propsOf env block pattern t with ⟨outcome, u⟩
          rw [made] at props
          cases outcome with
          | error f => rw [bind_of_error made, bind_of_error props]
          | ok given =>
            rw [bind_of_ok made, bind_of_ok props]
            rfl

/-- Plans do not look at the modifiers: an induction on the plan. -/
theorem follow_withModifiers (place : Place) (render : Place → Block → RenderM String) (plan : Plan) :
    follow (env.withModifiers table) place block render plan = follow env place block render plan := by
  induction plan with
  | done text => rfl
  | fail failure => rfl
  | inner next ih =>
    unfold follow
    simp only [ih]
  | block inside inner next ih =>
    unfold follow
    simp only [ih]
  | items name params next ih =>
    unfold follow
    simp only [ih]
    rfl
  | pattern ref next ih =>
    unfold follow
    simp only [ih]
    rfl
  | within scope plan next inPlan ih =>
    unfold follow
    simp only [ih, inPlan]
    cases scope <;> rfl
  | guarded owner name plan next inPlan ih =>
    unfold follow
    simp only [ih, inPlan]

end RenderM

end

end DynamicBlocks
