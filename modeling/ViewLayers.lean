import ViewLayers.Component.Discovery
import ViewLayers.Proofs.Component.RoundTrip
import ViewLayers.Registry
import ViewLayers.Proofs.Operation.Staleness
import ViewLayers.Operation.RouteData
import ViewLayers.Provision
import ViewLayers.Localization.Cache
import ViewLayers.Proofs.Operation.Replaying
import ViewLayers.Proofs.Wrapper.Bindings
import ViewLayers.Proofs.Wrapper.Scope
import ViewLayers.Proofs.Wrapper.Template
import ViewLayers.Proofs.Wrapper.QuotedTexts
import ViewLayers.Proofs.Component.Scanning
import ViewLayers.Proofs.Path.Places
import ViewLayers.Proofs.Registry.Loading
import ViewLayers.Proofs.Component.RouteLinks
import ViewLayers.Proofs.Localization.SingleFlight
import ViewLayers.Proofs.Localization.Slots
import ViewLayers.Proofs.Wrapper.Hygiene
import ViewLayers.Proofs.Operation.Shown
import ViewLayers.Proofs.Wrapper.Numbered
import ViewLayers.Proofs.Wrapper.Props
import ViewLayers.Proofs.Wrapper.Specifiers
import ViewLayers.Proofs.Wrapper.Clauses
import ViewLayers.Proofs.Wrapper.Usage
import ViewLayers.Proofs.Wrapper.Relocation
import ViewLayers.Proofs.Script.Patterns
import ViewLayers.Proofs.Registry.Resolving
import ViewLayers.Proofs.Component.Describing
import ViewLayers.Proofs.Component.RouteForest
import ViewLayers.Proofs.Operation.Syncing
import ViewLayers.Proofs.Provision
import ViewLayers.Proofs.Localization.Overlay
import ViewLayers.Proofs.Localization.LocaleFiles
