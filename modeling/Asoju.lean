import Asoju.Lib.Walks
import Asoju.Lib.Rely
import Asoju.Lib.Prog
import Asoju.Lib.Table
import Asoju.Lib.Run
import Asoju.Lib.Decimal
import Asoju.Lib.Pool
import Asoju.Prisma
import Asoju.Cases
import Asoju.Lib.Journey
import Asoju.Lifecycle
import Asoju.Config
import Asoju.Payments
import Asoju.Refunds
import Asoju.Membership
import Asoju.Quotes
import Asoju.QuoteAcceptance
import Asoju.Operations
import Asoju.RefundConservation
import Asoju.DoubleCharge
import Asoju.PaymentMoves
import Asoju.Redelivery
import Asoju.AwaitingPayment
import Asoju.Lib.Matching
import Asoju.MakerChecker
import Asoju.ScBalance
import Asoju.RefundDecisions
import Asoju.BenefitAgreement
import Asoju.AgentWallet
import Asoju.Lib.DoubleEntry
import Asoju.WalletCalls
import Asoju.WalletOverdraw
import Asoju.WalletLedger
import Asoju.Idempotency
import Asoju.KeyExclusion
import Asoju.Automation
import Asoju.ChecklistTemplates
import Asoju.ServiceRequests
import Asoju.CaseConversion
import Asoju.Lib.Faults
import Asoju.KeyedRetry
import Asoju.Subscriptions
import Asoju.SubscriptionRuns
import Asoju.ActiveSubscriptions
import Asoju.FirstInvoices
import Asoju.BillingSweep
import Asoju.ScGrants
import Asoju.Lib.Milestone
import Asoju.Assignments
import Asoju.CaseAccess
import Asoju.QualityControl
import Asoju.Milestones
import Asoju.MilestoneRuns
import Asoju.PaymentSweeps
import Asoju.PriceCatalogue
import Asoju.Lib.Rotation
import Asoju.SessionRuns
import Asoju.Mfa
import Asoju.MfaRuns
import Asoju.BreakerRuns
import Asoju.Documents
import Asoju.DocumentPrivacy
import Asoju.Disputes
import Asoju.Scopes
import Asoju.ScopeRuns
import Asoju.Triage
import Asoju.AutoQuoteRuns
import Asoju.AssignmentRuns
import Asoju.Lib.Expiring
import Asoju.FieldForce.SignedRequests
import Asoju.Lib.Client
import Asoju.FieldForce.Schema
import Asoju.Lib.Window
import Asoju.FieldForce.ExternalMissionRuns
import Asoju.FieldForce.PayoutRuns
import Asoju.FieldForce.WebhookRuns
import Asoju.FieldForce.PayoutBooks
import Asoju.FieldForce.WebhookPool
import Asoju.FieldForce.StateMachines
import Asoju.FieldForce.Missions
import Asoju.FieldForce.QualityControl
import Asoju.FieldForce.MissionBooks
import Asoju.FieldForce.MissionMoves
import Asoju.FieldForce.MissionGuards
import Asoju.FieldForce.MissionEarnings
import Asoju.FieldForce.AgentBalances
import Asoju.FieldForce.Sync
import Asoju.FieldForce.KeyedTransitions
import Asoju.FieldForce.Completion
import Asoju.FieldForce.WorkflowPool
import Asoju.FieldForce.Outbox
import Asoju.FieldForce.OutboxRuns
import Asoju.FieldForce.OutboxWorkers
import Asoju.Lib.Stale
import Asoju.FieldForce.GigAcceptance
import Asoju.FieldForce.Chat
import Asoju.FieldForce.ChatReceipts
import Asoju.FieldForce.ChatIdentity
import Asoju.FieldForce.CaseQuotes
import Asoju.FieldForce.QuoteRuns
import Asoju.FieldForce.ChatUnread
import Asoju.FieldForce.ChatHistory
import Asoju.OfflineQueue
import Asoju.FieldForce.OutboxRetries
import Asoju.FieldForce.EvidenceCounts
import Asoju.FieldForce.SyncAnswers
import Asoju.RiskEngine
import Asoju.FieldForce.CarePlans
import Asoju.FieldForce.CareSteps
import Asoju.FieldForce.CareSchedules
import Asoju.FieldForce.CareCounters
import Asoju.FieldForce.CareExpiry
import Asoju.Invites
import Asoju.Registration
import Asoju.FinancialPlanning
import Asoju.Lib.Overwrite
import Asoju.FieldForce.SosProtocol
import Asoju.FieldForce.ChecklistRuns
import Asoju.WhatsApp
import Asoju.WhatsAppRuns
import Asoju.FieldForce.SubmitPaths
import Asoju.FieldForce.QcCycles
import Asoju.FieldForce.NotificationWorkers
import Asoju.Revenue
import Asoju.Lib.Lockstep
import Asoju.GradingRuns
import Asoju.Base32
import Asoju.AutomationPrecedence
import Asoju.Escalations
import Asoju.AgentSos
import Asoju.QuoteExpiry
import Asoju.Checklist
import Asoju.QcAtomicity
import Asoju.TrustScore
import Asoju.Lib.Stopwatch
import Asoju.Recurring
import Asoju.RecurringStages
import Asoju.RecurringRuns
import Asoju.InviteStages
import Asoju.InviteRuns
import Asoju.WhatsAppNumbers
import Asoju.CaseWalks
import Asoju.Providers
import Asoju.Arrival
import Asoju.SessionTab
import Asoju.Storage
import Asoju.StorageRuns
import Asoju.Credentials
import Asoju.CredentialRuns
import Asoju.CaseDesk
import Asoju.FieldForce.ChatClients
import Asoju.FieldForce.ChatCopies
import Asoju.FieldForce.ChatDelivery
import Asoju.Lib.Within
import Asoju.Concierge
import Asoju.ConciergeRuns
