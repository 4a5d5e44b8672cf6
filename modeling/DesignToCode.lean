import DesignToCode.CommandLine.Options
import DesignToCode.CommandLine.Plan
import DesignToCode.CommandLine.Run
import DesignToCode.Component
import DesignToCode.Component.Dump
import DesignToCode.Component.Element
import DesignToCode.Component.Property
import DesignToCode.Component.VariantName
import DesignToCode.Decimal.Binary
import DesignToCode.Decimal.Shortest
import DesignToCode.Decimal.Written
import DesignToCode.Design.Node
import DesignToCode.Design.Reader
import DesignToCode.Design.Source
import DesignToCode.DesignLink
import DesignToCode.Json.Draft
import DesignToCode.Json.Literal
import DesignToCode.Json.Printer
import DesignToCode.Json.Readable
import DesignToCode.Json.Reader
import DesignToCode.Json.Value
import DesignToCode.Main
import DesignToCode.Naming
import DesignToCode.Naming.ClassScope
import DesignToCode.OrderedMap
import DesignToCode.Output.Artifacts
import DesignToCode.Output.Catalog
import DesignToCode.Output.ComponentFile
import DesignToCode.Output.Literal
import DesignToCode.Output.Markup
import DesignToCode.Output.Stylesheet
import DesignToCode.Proofs.CommandLine.Delivery
import DesignToCode.Proofs.CommandLine.Links
import DesignToCode.Proofs.CommandLine.Obstacles
import DesignToCode.Proofs.CommandLine.Reading
import DesignToCode.Proofs.Component.Addresses
import DesignToCode.Proofs.Component.ClassNames
import DesignToCode.Proofs.Component.ClassRequests
import DesignToCode.Proofs.Component.Declarations
import DesignToCode.Proofs.Component.Outline
import DesignToCode.Proofs.Component.Picture
import DesignToCode.Proofs.Component.Preorder
import DesignToCode.Proofs.Component.VariantNames
import DesignToCode.Proofs.Decimal.Unsigned
import DesignToCode.Proofs.DesignLink
import DesignToCode.Proofs.DesignLink.Escapes
import DesignToCode.Proofs.DesignLink.Grammar
import DesignToCode.Proofs.DesignLink.RoundTrip
import DesignToCode.Proofs.DesignLink.Separators
import DesignToCode.Proofs.FirstWins
import DesignToCode.Proofs.Naming.Agreement
import DesignToCode.Proofs.Naming.Claims
import DesignToCode.Proofs.Naming.Identifiers
import DesignToCode.Proofs.Naming.Plain
import DesignToCode.Proofs.Naming.Requests
import DesignToCode.Proofs.OrderedMap
import DesignToCode.Proofs.Output.CodeReader
import DesignToCode.Proofs.Output.Entities
import DesignToCode.Proofs.Output.Essence
import DesignToCode.Proofs.Output.Excerpt
import DesignToCode.Proofs.Output.FamilyReader
import DesignToCode.Proofs.Output.FontFamilies
import DesignToCode.Proofs.Output.Fragments
import DesignToCode.Proofs.Output.Identifiers
import DesignToCode.Proofs.Output.MarkupReader
import DesignToCode.Proofs.Output.MarkupReading
import DesignToCode.Proofs.Output.ModuleNames
import DesignToCode.Proofs.Output.ParameterNames
import DesignToCode.Proofs.Output.QuotedTexts
import DesignToCode.Proofs.Output.RootBody
import DesignToCode.Proofs.Output.RootClass
import DesignToCode.Proofs.Output.RuleOrder
import DesignToCode.Proofs.Output.ScriptReader
import DesignToCode.Proofs.Output.Selectors
import DesignToCode.Proofs.Output.SharedValues
import DesignToCode.Proofs.Output.SplicedNames
import DesignToCode.Proofs.Output.Stories
import DesignToCode.Proofs.Output.StoryArguments
import DesignToCode.Proofs.Output.StoryOrder
import DesignToCode.Proofs.Output.StyleRules
import DesignToCode.Proofs.Output.ValueRules
import DesignToCode.Proofs.Output.VariantLayers
import DesignToCode.Proofs.Places
import DesignToCode.Proofs.Style.Aspects
import DesignToCode.Proofs.Style.Patches
import DesignToCode.Proofs.Text.Pieces
import DesignToCode.Proofs.Text.Trimming
import DesignToCode.Proofs.Workspace.Growth
import DesignToCode.Proofs.Workspace.Tree
import DesignToCode.Proofs.Workspace.Writing
import DesignToCode.Settings
import DesignToCode.Style.Mapping
import DesignToCode.Style.Measure
import DesignToCode.Style.StyleMap
import DesignToCode.Text.Blank
import DesignToCode.Text.Casing
import DesignToCode.Text.Casing.Table
import DesignToCode.Text.CodeTable
import DesignToCode.Text.Normal
import DesignToCode.Text.Normal.Table
import DesignToCode.Text.Pieces
import DesignToCode.Text.Quoted
import DesignToCode.Text.Quoted.Table
import DesignToCode.Trace
import DesignToCode.Workspace
import DesignToCode.Workspace.Path
import DesignToCode.Workspace.Shape
import DesignToCode.Proofs.Style.Shorthands
import DesignToCode.Proofs.CommandLine.Containment
import DesignToCode.Proofs.CommandLine.InputFiles
import DesignToCode.Proofs.Design.ForeignFields
import DesignToCode.Proofs.Output.DistinctRules
