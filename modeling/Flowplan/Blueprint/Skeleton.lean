import Flowplan.Record.Field

namespace Flowplan

/-- What an architecture in a certain domain usually consists of. -/
structure Skeleton where
  key : String
  components : List String
  integrations : List String
  securityRequirements : List String
  scalabilityPatterns : List String
  deriving DecidableEq

namespace Skeleton

def ofJson : Json → Checked Skeleton :=
  Record.record fun members =>
    Skeleton.mk
      <$> Record.required members "key" Record.text
      <*> Record.optional members "components" (Record.list Record.text) []
      <*> Record.optional members "integrations" (Record.list Record.text) []
      <*> Record.optional members "security_requirements" (Record.list Record.text) []
      <*> Record.optional members "scalability_patterns" (Record.list Record.text) []

def toJson (skeleton : Skeleton) : Json :=
  .obj [
    ("key", .str skeleton.key),
    ("components", .strings skeleton.components),
    ("integrations", .strings skeleton.integrations),
    ("security_requirements", .strings skeleton.securityRequirements),
    ("scalability_patterns", .strings skeleton.scalabilityPatterns)]

def eCommerce : Skeleton where
  key := "e-commerce-automation"
  components := ["order-processor", "inventory-manager", "notification-system", "analytics-engine"]
  integrations := ["payment-gateway", "shipping-api", "crm-system", "email-service"]
  securityRequirements := ["pci-compliance", "data-encryption", "audit-logging"]
  scalabilityPatterns := ["horizontal-scaling", "load-balancing", "caching-layer"]

def crmSales : Skeleton where
  key := "crm-sales-automation"
  components := ["lead-capture", "scoring-engine", "nurturing-system", "reporting-dashboard"]
  integrations := ["web-forms", "email-marketing", "calendar-system", "communication-tools"]
  securityRequirements := ["data-privacy", "access-controls", "backup-systems"]
  scalabilityPatterns := ["database-optimization", "api-rate-limiting", "queue-management"]

def dataProcessing : Skeleton where
  key := "data-processing-pipeline"
  components := ["data-ingestion", "transformation-engine", "validation-system", "storage-layer"]
  integrations := ["data-sources", "etl-tools", "analytics-platforms", "monitoring-systems"]
  securityRequirements := ["data-governance", "encryption", "compliance-reporting"]
  scalabilityPatterns := ["stream-processing", "distributed-computing", "data-partitioning"]

def generic : Skeleton where
  key := "generic"
  components := ["trigger-system", "processing-engine", "integration-layer", "monitoring-system"]
  integrations := ["external-apis", "databases", "notification-services"]
  securityRequirements := ["authentication", "authorization", "data-protection"]
  scalabilityPatterns := ["load-balancing", "caching", "monitoring"]

def ofDomain (domain : String) : Skeleton :=
  match domain with
  | "ecommerce" => eCommerce
  | "sales" => crmSales
  | "crm" => crmSales
  | "data" => dataProcessing
  | _ => generic

end Skeleton

end Flowplan
