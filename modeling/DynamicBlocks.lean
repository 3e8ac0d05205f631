import DynamicBlocks.Text.Blank
import DynamicBlocks.Text.Case
import DynamicBlocks.Text.CodePoint
import DynamicBlocks.Text.Digit
import DynamicBlocks.Text.Percent
import DynamicBlocks.Text.Search
import DynamicBlocks.Text.Similarity
import DynamicBlocks.Text.Word
import DynamicBlocks.Number.Format
import DynamicBlocks.Number.Read
import DynamicBlocks.Number.Rounding
import DynamicBlocks.Calendar.Iso
import DynamicBlocks.Calendar.Pattern
import DynamicBlocks.Json.Reader
import DynamicBlocks.Json.Writer
import DynamicBlocks.Html.Markup
import DynamicBlocks.Digest.Sha256
import DynamicBlocks.Value.Display
import DynamicBlocks.Expression.Literal
import DynamicBlocks.Expression.Parser
import DynamicBlocks.Modifier.Builtin
import DynamicBlocks.Resolve.Data
import DynamicBlocks.Block.Basic
import DynamicBlocks.Pattern.Basic
import DynamicBlocks.Pattern.Cache
import DynamicBlocks.Pattern.Directory
import DynamicBlocks.Context.Entry
import DynamicBlocks.Context.Host
import DynamicBlocks.Context.Provider
import DynamicBlocks.Context.Scope
import DynamicBlocks.Context.Slots
import DynamicBlocks.Loop.Cache
import DynamicBlocks.Loop.Handler
import DynamicBlocks.Loop.Service
import DynamicBlocks.Component.Cast
import DynamicBlocks.Component.Props
import DynamicBlocks.Loop.Target
import DynamicBlocks.Render.Component
import DynamicBlocks.Render.Loop
import DynamicBlocks.Render.Page
import DynamicBlocks.Render.Settings
import DynamicBlocks.Proofs.RenderInduction
import DynamicBlocks.Proofs.Answers
import DynamicBlocks.Proofs.Restoration
import DynamicBlocks.Proofs.Pages
import DynamicBlocks.Proofs.Lockstep
import DynamicBlocks.Proofs.SlotGuards
import DynamicBlocks.Proofs.Isolation
import DynamicBlocks.Proofs.DepthFailures
import DynamicBlocks.Proofs.FurtherDown
import DynamicBlocks.Proofs.MovedBlocks
import DynamicBlocks.Proofs.Wrapping
import DynamicBlocks.Proofs.RefusedSlots
import DynamicBlocks.Proofs.SlotSources
import DynamicBlocks.Proofs.BracePairs
import DynamicBlocks.Proofs.TemplateTokens
import DynamicBlocks.Proofs.ExpressionTexts
import DynamicBlocks.Proofs.ArgumentNesting
import DynamicBlocks.Proofs.TargetValues
import DynamicBlocks.Proofs.WrittenCalls
import DynamicBlocks.Proofs.PresetLoops
import DynamicBlocks.Proofs.LoopProps
import DynamicBlocks.Proofs.ForwardedLoops
import DynamicBlocks.Proofs.NearestDouble
import DynamicBlocks.Proofs.ShortestDigits
import DynamicBlocks.Proofs.NumberTexts
import DynamicBlocks.Proofs.JsonStrings
import DynamicBlocks.Proofs.JsonRoundTrip
import DynamicBlocks.Proofs.Rearrangement
import DynamicBlocks.Proofs.PrintedTexts
import DynamicBlocks.Proofs.CanonicalJson
import DynamicBlocks.Proofs.RequestKeys
import DynamicBlocks.Proofs.RememberedItems
import DynamicBlocks.Proofs.TextReplacement
import DynamicBlocks.Proofs.DeclaredDefaults
import DynamicBlocks.Proofs.ParameterOrder
import DynamicBlocks.Proofs.SharedRequests
import DynamicBlocks.Proofs.Siblings
import DynamicBlocks.Proofs.UnrolledLoops
import DynamicBlocks.Proofs.ShownTemplates
import DynamicBlocks.Proofs.PropertyTexts
import DynamicBlocks.Proofs.NestedCalls
import DynamicBlocks.Proofs.PartsOfValues
import DynamicBlocks.Proofs.KeptValues
import DynamicBlocks.Proofs.NestedData
import DynamicBlocks.Proofs.TotalResolution
import DynamicBlocks.Proofs.WritableValues
import DynamicBlocks.Proofs.DisplayedTexts
import DynamicBlocks.Proofs.ListedItems
import DynamicBlocks.Proofs.UnmarkedTexts
import DynamicBlocks.Proofs.QuotedArguments
import DynamicBlocks.Proofs.QuotedKeys
import DynamicBlocks.Proofs.ClosedTexts
import DynamicBlocks.Proofs.WrittenExpressions
import DynamicBlocks.Proofs.CapturedLoops
import DynamicBlocks.Proofs.OtherModifiers
import DynamicBlocks.Proofs.Previews
import DynamicBlocks.Proofs.ShadowedSources
import DynamicBlocks.Proofs.ExpandedReferences
import DynamicBlocks.Proofs.DefaultedReferences
import DynamicBlocks.Proofs.ParameterTexts
import DynamicBlocks.Proofs.FirstDefaults
import DynamicBlocks.Proofs.ResetModes
import DynamicBlocks.Proofs.PatternLookups
import DynamicBlocks.Proofs.TypedProps
import DynamicBlocks.Proofs.DepthLimits
import DynamicBlocks.Proofs.IntegerTexts
import DynamicBlocks.Proofs.DescribedBlocks
import DynamicBlocks.Proofs.ServedPatterns
import DynamicBlocks.Proofs.JoinedArguments
import DynamicBlocks.Proofs.ArgumentTexts
import DynamicBlocks.Proofs.RegistryHistories
import DynamicBlocks.Proofs.SequenceModifiers
