import Flowplan.Record.Label

namespace Flowplan

/-- The business domain of a template. -/
inductive Template.Category where
  | eCommerce
  | crmSales
  | marketingAutomation
  | dataProcessing
  | customerSupport
  | financeAccounting
  | hrRecruiting
  | socialMedia
  | contentManagement
  | analyticsReporting
  | communication
  | projectManagement
  | securityMonitoring
  | aiMlAutomation
  | apiWebhooks
  | dataTransformation
  deriving DecidableEq

inductive Template.Difficulty where
  | beginner
  | intermediate
  | advanced
  | expert
  deriving DecidableEq

/-- The output channel of a connection. -/
inductive Template.Channel where
  | main
  | error
  deriving DecidableEq

inductive Template.ServiceKind where
  | api
  | database
  | webhook
  | auth
  | storage
  deriving DecidableEq

inductive Template.Authentication where
  | apiKey
  | oauth
  | basic
  | none
  deriving DecidableEq

namespace Template

instance : Labelled Category where
  all := [.eCommerce, .crmSales, .marketingAutomation, .dataProcessing, .customerSupport,
    .financeAccounting, .hrRecruiting, .socialMedia, .contentManagement, .analyticsReporting,
    .communication, .projectManagement, .securityMonitoring, .aiMlAutomation, .apiWebhooks,
    .dataTransformation]
  label
    | .eCommerce => "e-commerce"
    | .crmSales => "crm-sales"
    | .marketingAutomation => "marketing-automation"
    | .dataProcessing => "data-processing"
    | .customerSupport => "customer-support"
    | .financeAccounting => "finance-accounting"
    | .hrRecruiting => "hr-recruiting"
    | .socialMedia => "social-media"
    | .contentManagement => "content-management"
    | .analyticsReporting => "analytics-reporting"
    | .communication => "communication"
    | .projectManagement => "project-management"
    | .securityMonitoring => "security-monitoring"
    | .aiMlAutomation => "ai-ml-automation"
    | .apiWebhooks => "api-webhooks"
    | .dataTransformation => "data-transformation"
  title := "TemplateCategory"

instance : Labelled Difficulty where
  all := [.beginner, .intermediate, .advanced, .expert]
  label
    | .beginner => "beginner"
    | .intermediate => "intermediate"
    | .advanced => "advanced"
    | .expert => "expert"
  title := "Difficulty"

instance : Labelled Channel where
  all := [.main, .error]
  label
    | .main => "main"
    | .error => "error"
  title := "ConnectionType"

instance : Labelled ServiceKind where
  all := [.api, .database, .webhook, .auth, .storage]
  label
    | .api => "api"
    | .database => "database"
    | .webhook => "webhook"
    | .auth => "auth"
    | .storage => "storage"
  title := "IntegrationType"

instance : Labelled Authentication where
  all := [.apiKey, .oauth, .basic, .none]
  label
    | .apiKey => "api_key"
    | .oauth => "oauth"
    | .basic => "basic"
    | .none => "none"
  title := "AuthMethod"

def Difficulty.rank : Difficulty → Nat
  | .beginner => 1
  | .intermediate => 2
  | .advanced => 3
  | .expert => 4

end Template

end Flowplan
