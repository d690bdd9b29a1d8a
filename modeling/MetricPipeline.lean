import MetricPipeline.Compound
import MetricPipeline.Main
import MetricPipeline.Wire.Batches
import MetricPipeline.Proofs.CacheConservation
import MetricPipeline.Proofs.CompileClosedForm
import MetricPipeline.Proofs.EndpointAccounting
import MetricPipeline.Proofs.WireRoundTrip
import MetricPipeline.Proofs.EndpointDelivery
import MetricPipeline.Proofs.RingQueue
import MetricPipeline.Proofs.EntryTimes
import MetricPipeline.Proofs.ServedTimers
import MetricPipeline.Proofs.ShutdownFinality
import MetricPipeline.Proofs.BufferHistory
import MetricPipeline.Proofs.BoundedWaiting
import MetricPipeline.Proofs.TriggerIsolation
import MetricPipeline.Proofs.ServiceEndings
import MetricPipeline.Proofs.ShutdownOutcome
import MetricPipeline.Proofs.SharedEndpoints
import MetricPipeline.Proofs.JunkLines
import MetricPipeline.Proofs.CompoundPieces
import MetricPipeline.Proofs.LabelledGroups
import MetricPipeline.Proofs.WireConcatenation
import MetricPipeline.Proofs.CompileOrder
import MetricPipeline.Proofs.DroppedRecords
import MetricPipeline.Proofs.FullEntries
import MetricPipeline.Proofs.WideEvents
import MetricPipeline.Proofs.EventLimit
import MetricPipeline.Proofs.RateLimit
import MetricPipeline.Proofs.SampleReading
import MetricPipeline.Proofs.TemplateSources
import MetricPipeline.Proofs.DefinitionLoading
import MetricPipeline.Proofs.ReclaimedEntries
import MetricPipeline.Proofs.WireTruncation
import MetricPipeline.Proofs.RingGeometry
import MetricPipeline.Proofs.RingRoom
import MetricPipeline.Proofs.IndexedEntries
import MetricPipeline.Proofs.EntrySlotRuns
import MetricPipeline.Proofs.TemplateSlices
