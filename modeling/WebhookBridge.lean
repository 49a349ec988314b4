import WebhookBridge.Command.Line
import WebhookBridge.Main
import WebhookBridge.Proofs.Dispatch.Aggregation
import WebhookBridge.Proofs.Relay.Containment
import WebhookBridge.Proofs.Server.Coherence
import WebhookBridge.Proofs.Service.ClosingSteps
import WebhookBridge.Proofs.Service.Ending
import WebhookBridge.Proofs.Service.Stranding
import WebhookBridge.Proofs.TaskRuntime.Answering
import WebhookBridge.Proofs.TaskRuntime.FirstReply
import WebhookBridge.Proofs.TaskRuntime.Releasing
import WebhookBridge.Proofs.Webhook.Answers
import WebhookBridge.Proofs.Webhook.Recorded
import WebhookBridge.Server.Isolated
import WebhookBridge.Proofs.TaskRuntime.Delivery
import WebhookBridge.Proofs.Relay.Independence
import WebhookBridge.Proofs.Service.Steps
import WebhookBridge.Proofs.Server.Waiters
import WebhookBridge.Proofs.Service.SingleFlight
import WebhookBridge.Proofs.Server.Calls
import WebhookBridge.Proofs.Service.Outcome
import WebhookBridge.Proofs.Server.Verdicts
import WebhookBridge.Proofs.Command.Agreement
import WebhookBridge.Proofs.Command.Endings
import WebhookBridge.Proofs.Relay.Crossing
import WebhookBridge.Proofs.Dispatch.AllOrNothing
import WebhookBridge.Proofs.Task.Protocol
import WebhookBridge.Proofs.Server.Starting
import WebhookBridge.Proofs.Component.Factories
import WebhookBridge.Proofs.Command.ServeLines
import WebhookBridge.Proofs.Service.WholeRun
import WebhookBridge.Proofs.Command.StartUp
import WebhookBridge.Proofs.Service.StartFails
import WebhookBridge.Proofs.Dispatch.Atomicity
import WebhookBridge.Proofs.Relay.BatchForms
import WebhookBridge.Proofs.Settings.Precedence
import WebhookBridge.Proofs.Service.Limits
import WebhookBridge.Proofs.Number.WholeTexts
import WebhookBridge.Proofs.Address.Grammar
import WebhookBridge.Proofs.Address.RoundTrip
