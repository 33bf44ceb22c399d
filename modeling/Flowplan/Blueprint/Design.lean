import Flowplan.Blueprint.Analysis
import Flowplan.Blueprint.Architecture
import Flowplan.Blueprint.Skeleton

namespace Flowplan.Design

/-- The kinds of nodes that a service suggests for the integration layer. -/
def nodeHintRules : List (String × List String) := [
  ("google", ["google-sheets", "gmail"]),
  ("slack", ["slack"]),
  ("hubspot", ["hubspot"]),
  ("salesforce", ["salesforce"]),
  ("stripe", ["stripe"]),
  ("email", ["email-send", "imap-email"])]

def nodeHints (text : String) : List String :=
  "http-request" :: (nodeHintRules.filter fun rule => Text.mentions text rule.1).flatMap (·.2)

def triggerSystem : Component where
  name := "Trigger System"
  type := .trigger
  description := "Initiates workflows based on events, schedules, or manual triggers"
  nodeHints := ["webhook", "cron", "manual-trigger", "email-trigger"]
  dependencies := ["External event sources"]
  configuration := [
    ("webhook-security", "Required for external triggers"),
    ("scheduling", "Cron expressions for time-based triggers"),
    ("retry-logic", "Automatic retry on failures")]

def dataProcessingEngine : Component where
  name := "Data Processing Engine"
  type := .processor
  description := "Transforms, validates, and enriches data"
  nodeHints := ["function", "json", "xml", "set", "merge", "item-lists"]
  dependencies := ["Input data sources"]
  configuration := [
    ("validation-rules", "Data quality checks"),
    ("transformation-logic", "Business rule implementation"),
    ("error-handling", "Graceful error recovery")]

def aiDecisionEngine : Component where
  name := "AI Decision Engine"
  type := .processor
  description := "AI-powered decision making and content generation"
  nodeHints := ["openai", "anthropic", "google-ai", "hugging-face"]
  dependencies := ["AI API services"]
  configuration := [
    ("model-selection", "Appropriate AI models for tasks"),
    ("prompt-engineering", "Optimized prompts for consistent results"),
    ("rate-limiting", "API quota management")]

def integrationLayer (text : String) : Component where
  name := "Integration Layer"
  type := .integrator
  description := "Connects with external systems and services"
  nodeHints := nodeHints text
  dependencies := ["External system APIs"]
  configuration := [
    ("authentication", "OAuth, API keys, or other auth methods"),
    ("rate-limiting", "Respect external API limits"),
    ("fallback-strategies", "Handle integration failures gracefully")]

def dataStorage : Component where
  name := "Data Storage"
  type := .storage
  description := "Persistent data storage and retrieval"
  nodeHints := ["postgres", "mysql", "mongodb", "redis", "google-sheets"]
  dependencies := ["Database systems"]
  configuration := [
    ("backup-strategy", "Regular automated backups"),
    ("performance-optimization", "Indexed queries and caching"),
    ("security", "Encrypted storage and access controls")]

def notificationSystem : Component where
  name := "Notification System"
  type := .notifier
  description := "Sends notifications and updates to users"
  nodeHints := ["email-send", "slack", "discord", "sms", "push-notifications"]
  dependencies := ["Communication services"]
  configuration := [
    ("template-management", "Dynamic message templates"),
    ("delivery-tracking", "Monitor notification success"),
    ("personalization", "User-specific messaging")]

def components (text : String) : List Component :=
  [triggerSystem]
    ++ (if Signal.needsDataProcessing text then [dataProcessingEngine] else [])
    ++ (if Signal.needsAi text then [aiDecisionEngine] else [])
    ++ [integrationLayer text]
    ++ (if Signal.needsStorage text then [dataStorage] else [])
    ++ [notificationSystem]

/-- A step of the data flow that waits for its number. -/
abbrev Stage := Nat → DataFlowStep

def triggerStage : Stage := fun step => {
  step
  description := "Initial trigger receives data or event"
  inputSource := "External trigger (webhook, schedule, manual)"
  processing := "Validate trigger data and extract relevant information"
  outputDestination := "Processing engine"
  errorHandling := "Log error and send notification to administrators" }

def transformationStage : Stage := fun step => {
  step
  description := "Data transformation and enrichment"
  inputSource := "Raw trigger data"
  processing := "Apply business rules, validate, transform, and enrich data"
  outputDestination := "Integration layer or AI engine"
  errorHandling := "Retry with exponential backoff, fallback to manual review" }

def aiStage : Stage := fun step => {
  step
  description := "AI-powered analysis and decision making"
  inputSource := "Processed data"
  processing := "AI analysis, classification, or content generation"
  outputDestination := "Decision routing system"
  errorHandling := "Use fallback rules if AI service is unavailable" }

def integrationStage : Stage := fun step => {
  step
  description := "External system integration"
  inputSource := "Processed and analyzed data"
  processing := "Format data for external systems and execute API calls"
  outputDestination := "Target systems (CRM, database, etc.)"
  errorHandling := "Queue for retry, notify on persistent failures" }

def notificationStage : Stage := fun step => {
  step
  description := "Result notification and logging"
  inputSource := "Integration results"
  processing := "Generate status reports and user notifications"
  outputDestination := "Users, dashboards, logs"
  errorHandling := "Ensure notifications are delivered despite failures" }

def stages (text : String) : List Stage :=
  [triggerStage]
    ++ (if Signal.needsDataProcessing text then [transformationStage] else [])
    ++ (if Signal.needsAi text then [aiStage] else [])
    ++ [integrationStage, notificationStage]

def dataFlow (text : String) : List DataFlowStep :=
  (stages text).mapIdx fun i stage => stage (i + 1)

/-- The services that a text may mention, with the keyword for each. -/
def knownServices : List (String × String) := [
  ("hubspot", "HubSpot"),
  ("salesforce", "Salesforce"),
  ("stripe", "Stripe"),
  ("paypal", "PayPal"),
  ("shopify", "Shopify"),
  ("woocommerce", "WooCommerce"),
  ("gmail", "Gmail"),
  ("outlook", "Outlook"),
  ("slack", "Slack"),
  ("discord", "Discord"),
  ("trello", "Trello"),
  ("asana", "Asana"),
  ("jira", "Jira")]

def mentionedServices (text : String) : List String :=
  (knownServices.filter fun entry => Text.mentions text entry.1).map (·.2)

def serviceSpec (service : String) : IntegrationSpec :=
  match service with
  | "HubSpot" =>
    { service := "HubSpot CRM"
      purpose := "Contact and deal management"
      dataExchanged := ["Contact information", "Deal data", "Activity logs"]
      authentication := "OAuth 2.0 or API key"
      rateLimit := some 100
      fallback := some "Queue updates for retry during rate limit periods" }
  | "Stripe" =>
    { service := "Stripe Payments"
      purpose := "Payment processing and subscription management"
      dataExchanged := ["Payment data", "Customer information", "Subscription details"]
      authentication := "API key (secret key for server-side)"
      rateLimit := some 100
      fallback := some "Use webhook notifications for reliable payment status updates" }
  | service =>
    { service
      purpose := s!"Exchange data with {service}"
      dataExchanged := ["Records", "Status updates"]
      authentication := "OAuth 2.0 or API key"
      rateLimit := none
      fallback := some "Queue requests for retry on failure" }

/-- The integration of an architecture whose text mentions no known service. -/
def externalApi : IntegrationSpec where
  service := "External API"
  purpose := "Exchange data with the target system over HTTP"
  dataExchanged := ["Processed records", "Status updates"]
  authentication := "API key or bearer token"
  rateLimit := none
  fallback := some "Queue requests for retry when the endpoint is unavailable"

def integrations (text : String) : List IntegrationSpec :=
  match mentionedServices text with
  | [] => [externalApi]
  | services => services.map serviceSpec

def baselineSecurity : List String := [
  "API key and credential management using environment variables",
  "Data encryption in transit using HTTPS",
  "Input validation and sanitization",
  "Error handling without exposing sensitive information"]

/-- Keywords, and what has to be considered where one of them is mentioned. -/
def securityRules : List (List String × List String) := [
  (["payment", "financial"],
    ["PCI DSS compliance for payment data", "Secure storage of financial information"]),
  (["personal", "customer data"],
    ["GDPR/CCPA compliance for personal data", "Data retention and deletion policies"]),
  (["healthcare", "medical"],
    ["HIPAA compliance for health information", "Audit logging for all data access"])]

def security (text : String) (skeleton : Option Skeleton) : List String :=
  baselineSecurity
    ++ (securityRules.filter fun rule => Text.mentionsAny text rule.1).flatMap (·.2)
    ++ ((skeleton.map (·.securityRequirements)).getD []).map fun requirement =>
      s!"Domain requirement: {requirement}"

def scalability (analysis : Analysis) (skeleton : Option Skeleton) : String :=
  let patterns := (skeleton.map (·.scalabilityPatterns)).getD []
  "Horizontal scaling approach with "
    ++ (if analysis.dataVolume = .high ∨ analysis.dataVolume = .veryHigh then
        "distributed processing, queue-based architecture, and database optimization. "
      else "load balancing and caching layers. ")
    ++ (if 5 < analysis.integrationCount then
        "API rate limiting and connection pooling for multiple integrations. "
      else "")
    ++ "Monitoring and auto-scaling capabilities for peak demand periods."
    ++ (if patterns.isEmpty then ""
      else " Recommended patterns: " ++ ", ".intercalate patterns ++ ".")

/-- The architecture for a text, on the skeleton of its domain unless another is given. -/
def architecture (text : String) (analysis : Analysis) (skeleton : Option Skeleton) :
    Architecture :=
  let skeleton := skeleton.getD (Skeleton.ofDomain analysis.domain)
  { components := components text
    dataFlow := dataFlow text
    integrations := integrations text
    security := security text (some skeleton)
    scalability := scalability analysis (some skeleton) }

end Flowplan.Design
