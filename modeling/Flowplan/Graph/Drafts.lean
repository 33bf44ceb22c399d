import Flowplan.Graph.Canvas

namespace Flowplan.Graph.Draft

/-- Lines that each end in a line feed. -/
def ofLines (lines : List String) : String :=
  String.join (lines.map (· ++ "\n"))

/-- An expression that the workflow engine evaluates. -/
def evaluated (code : String) : String :=
  "=\x7b\x7b" ++ code ++ "\x7d\x7d"

def validationScript : String := ofLines [
  "const inputData = $input.all();",
  "",
  "for (let item of inputData) \x7b",
  "  if (!item.json || typeof item.json !== 'object') \x7b",
  "    throw new Error('Invalid input data structure');",
  "  \x7d",
  "  for (let key in item.json) \x7b",
  "    if (typeof item.json[key] === 'string') \x7b",
  "      item.json[key] = item.json[key]",
  "        .replace(/<script[^>]*>.*?<\\/script>/gi, '')",
  "        .replace(/<[^>]*>/g, '')",
  "        .trim();",
  "    \x7d",
  "  \x7d",
  "  item.json._validated_at = new Date().toISOString();",
  "\x7d",
  "",
  "return inputData;"]

def processScript : String := ofLines [
  "const items = $input.all();",
  "",
  "for (let item of items) \x7b",
  "  item.json.processed = true;",
  "  item.json.processed_at = new Date().toISOString();",
  "",
  "  if (item.json.amount && item.json.tax_rate) \x7b",
  "    item.json.total_amount = item.json.amount * (1 + item.json.tax_rate);",
  "  \x7d",
  "",
  "  if (item.json.type) \x7b",
  "    switch (item.json.type.toLowerCase()) \x7b",
  "      case 'urgent':",
  "        item.json.priority = 'high';",
  "        break;",
  "      case 'important':",
  "        item.json.priority = 'medium';",
  "        break;",
  "      default:",
  "        item.json.priority = 'low';",
  "    \x7d",
  "  \x7d",
  "\x7d",
  "",
  "return items;"]

def batchScript : String := ofLines [
  "const items = $input.all();",
  "",
  "return items.map(item => (\x7b",
  "  json: \x7b",
  "    ...item.json,",
  "    processed: true,",
  "    processed_at: new Date().toISOString()",
  "  \x7d",
  "\x7d));"]

def errorHandlerScript : String := ofLines [
  "const error = $input.first().json;",
  "",
  "return [\x7b",
  "  json: \x7b",
  "    error_type: error.name || 'Unknown Error',",
  "    error_message: error.message || 'An unexpected error occurred',",
  "    error_stack: error.stack,",
  "    timestamp: new Date().toISOString(),",
  "    workflow_id: $workflow.id,",
  "    execution_id: $execution.id,",
  "    node_name: error.node?.name || 'Unknown Node',",
  "    retry_count: error.retry_count || 0",
  "  \x7d",
  "\x7d];"]

def healthCheckScript : String := ofLines [
  "const recent = $workflow.getExecutions(10);",
  "const failureRate = recent.length",
  "  ? recent.filter(e => e.status === 'failed').length / recent.length",
  "  : 0;",
  "",
  "return [\x7b",
  "  json: \x7b",
  "    checks: [\x7b",
  "      check: 'workflow_failure_rate',",
  "      status: failureRate < 0.1 ? 'healthy' : 'warning',",
  "      value: failureRate,",
  "      threshold: 0.1",
  "    \x7d],",
  "    timestamp: new Date().toISOString()",
  "  \x7d",
  "\x7d];"]

def errorMessage : String := ofLines [
  "An error occurred in the automation workflow:",
  "",
  "Error Type: \x7b\x7b$json.error_type\x7d\x7d",
  "Message: \x7b\x7b$json.error_message\x7d\x7d",
  "Node: \x7b\x7b$json.node_name\x7d\x7d",
  "Time: \x7b\x7b$json.timestamp\x7d\x7d",
  "Workflow: \x7b\x7b$json.workflow_id\x7d\x7d",
  "",
  "Please check the workflow execution for more details."]

def plain (name type : String) (typeVersion : Nat) (parameters : Record.Members) : Draft :=
  ⟨name, type, typeVersion, parameters, none, none⟩

def withCredentials (draft : Draft) (kind credentials : String) : Draft :=
  { draft with credentials := some [(kind, credentials)] }

/-- A place below another one. -/
def below (place : Int × Int) (distance : Int) : Int × Int :=
  (place.1, place.2 + distance)

def placedAt (draft : Draft) (place : Int × Int) : Draft :=
  { draft with position := some place }

def function (name script : String) : Draft :=
  plain name "n8n-nodes-base.function" 1 [("functionCode", .str script)]

def webhookTrigger : Draft :=
  plain "Webhook Trigger" "n8n-nodes-base.webhook" 1 [
    ("httpMethod", .str "POST"),
    ("path", .str "automation-trigger"),
    ("responseMode", .str "responseNode"),
    ("options", .obj [("noResponseBody", .bool false)])]

/-- A trigger at the times that a cron expression names. -/
def scheduleTrigger (name : String) (expression : Json) : Draft :=
  plain name "n8n-nodes-base.cron" 1 [
    ("rule", .obj [("interval", .arr [
      .obj [("field", .str "cronExpression"), ("expression", expression)]])])]

def defaultSchedule : Draft :=
  scheduleTrigger "Schedule Trigger" (.str "0 9 * * 1-5")

def emailTrigger : Draft :=
  (plain "Email Trigger" "n8n-nodes-base.emailReadImap" 2 [
    ("format", .str "resolved"),
    ("options", .obj [
      ("allowUnauthorizedCerts", .bool false),
      ("forceReconnect", .bool true)])]).withCredentials "imap" "email-credentials"

def manualTrigger : Draft :=
  plain "Manual Trigger" "n8n-nodes-base.manualTrigger" 1 []

def validation : Draft :=
  function "Input Validation" validationScript

def aiProcessing (resource operation : Json) : Draft :=
  (plain "AI Processing" "n8n-nodes-base.openAi" 1 [
    ("resource", resource),
    ("operation", operation),
    ("model", .str "gpt-3.5-turbo"),
    ("messages", .obj [("messageValues", .arr [
      .obj [
        ("role", .str "system"),
        ("message", .str ("You are an AI assistant helping with business process automation. "
          ++ "Analyze the input data and provide structured output."))],
      .obj [
        ("role", .str "user"),
        ("message", .str (evaluated "JSON.stringify($json)"))]])]),
    ("options", .obj [
      ("temperature", .float (.ofDecimal false 3 (-1))),
      ("maxTokens", .int 1000)])]).withCredentials "openAiApi" "openai-credentials"

def assignment (number : Nat) (name value : String) : Json :=
  .obj [
    ("id", .str s!"assign_{number}"),
    ("name", .str name),
    ("value", .str value),
    ("type", .str "string")]

def transformData : Draft :=
  plain "Transform Data" "n8n-nodes-base.set" 3 [
    ("mode", .str "manual"),
    ("duplicateItem", .bool false),
    ("assignments", .obj [("assignments", .arr [
      assignment 1 "processed_at" (evaluated "new Date().toISOString()"),
      assignment 2 "status" "processed",
      assignment 3 "original_data" (evaluated "JSON.stringify($json)")])]),
    ("options", .obj [])]

def processData : Draft :=
  function "Process Data" processScript

/-- A member that holds a field of the data that a node receives. -/
def received (name field : String) : String × Json :=
  (name, .str (evaluated ("$json." ++ field)))

def hubspot : Draft :=
  (plain "HubSpot Integration" "n8n-nodes-base.hubspot" 2 [
    ("resource", .str "contact"),
    ("operation", .str "upsert"),
    received "email" "email",
    ("additionalFields", .obj [
      received "firstName" "first_name",
      received "lastName" "last_name",
      received "company" "company"])]).withCredentials "hubspotApi" "hubspot-credentials"

def salesforce : Draft :=
  (plain "Salesforce Integration" "n8n-nodes-base.salesforce" 2 [
    ("resource", .str "contact"),
    ("operation", .str "upsert"),
    ("externalId", .str "Email"),
    received "externalIdValue" "email",
    ("updateFields", .obj [
      received "FirstName" "first_name",
      received "LastName" "last_name",
      received "Email" "email"])]).withCredentials "salesforceOAuth2Api" "salesforce-credentials"

def stripe : Draft :=
  (plain "Stripe Integration" "n8n-nodes-base.stripe" 1 [
    ("resource", .str "customer"),
    ("operation", .str "create"),
    received "email" "email",
    ("additionalFields", .obj [
      received "name" "name",
      received "description" "description"])]).withCredentials "stripeApi" "stripe-credentials"

def postgres (name : String) (parameters : Record.Members) : Draft :=
  (plain name "n8n-nodes-base.postgres" 2 parameters).withCredentials "postgres"
    "database-credentials"

def databaseInsert : Draft :=
  postgres "Database Insert" [
    ("operation", .str "insert"),
    ("schema", .str "public"),
    ("table", .str "automation_data"),
    ("columns", .str "data, created_at"),
    ("additionalFields", .obj [("mode", .str "independently")])]

def httpParameter (name value : String) : Json :=
  .obj [("name", .str name), ("value", .str value)]

def httpRequest : Draft :=
  plain "API Integration" "n8n-nodes-base.httpRequest" 4 [
    ("method", .str "POST"),
    ("url", .str "https://api.example.com/webhook"),
    ("sendHeaders", .bool true),
    ("headerParameters", .obj [("parameters", .arr [
      httpParameter "Content-Type" "application/json",
      httpParameter "Authorization" "Bearer \x7b\x7b$credentials.apiToken\x7d\x7d"])]),
    ("sendBody", .bool true),
    ("bodyParameters", .obj [("parameters", .arr [
      httpParameter "data" (evaluated "JSON.stringify($json)"),
      httpParameter "timestamp" (evaluated "new Date().toISOString()")])]),
    ("options", .obj [("timeout", .int 30000)])]

def emailSend (name : String) (parameters : Record.Members) : Draft :=
  (plain name "n8n-nodes-base.emailSend" 2
    (("fromEmail", .str "automation@company.com") :: parameters)).withCredentials "smtp"
    "email-credentials"

def notificationMessage (title : String) : String :=
  ofLines [
    "The automation process has been completed successfully.",
    "",
    "Details:",
    "- Process: " ++ title,
    "- Completed: \x7b\x7bnew Date().toLocaleString()\x7d\x7d",
    "- Status: \x7b\x7b$json.status || \"Success\"\x7d\x7d",
    "- Records processed: \x7b\x7b$json.count || 1\x7d\x7d"]

/-- The message at the end of the main path. -/
def notification (title : String) : Draft :=
  emailSend "Send Notification" [
    ("toEmail", .str (evaluated "$json.notification_email || \"admin@company.com\"")),
    ("subject", .str (title ++ " - Process Completed")),
    ("message", .str (notificationMessage title)),
    ("options", .obj [
      ("allowUnauthorizedCerts", .bool false),
      ("appendAttribution", .bool false)])]

/-- The head of the error path, below the end of the main path. -/
def errorHandler (cursor : Int × Int) : Draft :=
  (function "Error Handler" errorHandlerScript).placedAt (below cursor 300)

def errorNotification (cursor : Int × Int) : Draft :=
  (emailSend "Error Notification" [
    ("toEmail", .str "admin@company.com"),
    ("subject", .str "Automation Error Alert"),
    ("message", .str errorMessage),
    ("options", .obj [("allowUnauthorizedCerts", .bool false)])]).placedAt (below cursor 500)

def pendingQuery : String :=
  "SELECT * FROM pending_data WHERE processed = false ORDER BY created_at ASC LIMIT 100"

def fetchPending : Draft :=
  postgres "Fetch Data" [("operation", .str "select"), ("query", .str pendingQuery)]

def processBatch : Draft :=
  function "Process Data Batch" batchScript

def updateStatus : Draft :=
  postgres "Update Status" [
    ("operation", .str "update"),
    ("table", .str "pending_data"),
    ("updateKey", .str "id"),
    ("columns", .str "processed, processed_at"),
    ("additionalFields", .obj [("mode", .str "independently")])]

def healthCheck : Draft :=
  function "System Health Check" healthCheckScript

end Flowplan.Graph.Draft
