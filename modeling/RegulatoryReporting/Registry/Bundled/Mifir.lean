import RegulatoryReporting.Package.Basic

/-!
# Transaction Reporting under MiFIR

A part of the fields and rules of transaction reporting under article 26 of MiFIR.
-/

namespace RegulatoryReporting.Bundled.Mifir

/-- The report types. -/
def reportTypes : List ReportType :=
  [{ code := "TRANSACTION", name := "Transaction report" }]

/-- The fields, in the order in which they are checked. -/
def fields : List Field :=
  [{ id := "MIFIR_001", name := "Report status", requirement := .mandatory,
     recordPath := some "report_status", allowedValues := some ["NEWT", "CANC"] },
   { id := "MIFIR_002", name := "Transaction reference number", requirement := .mandatory,
     recordPath := some "transaction_reference", pattern := some r"^[A-Z0-9]{1,52}$",
     maxLength := some 52 },
   { id := "MIFIR_004", name := "Executing entity identification code", dataType := some "LEI",
     requirement := .mandatory, recordPath := some "executing_entity.lei",
     pattern := some r"^[A-Z0-9]{18}[0-9]{2}$" },
   { id := "MIFIR_007", name := "Buyer identification code", requirement := .mandatory,
     recordPath := some "buyer.id", maxLength := some 35 },
   { id := "MIFIR_016", name := "Seller identification code", requirement := .mandatory,
     recordPath := some "seller.id", maxLength := some 35 },
   { id := "MIFIR_028", name := "Trading date time", dataType := some "datetime",
     requirement := .mandatory, recordPath := some "trading_date_time",
     pattern := some r"^\d{4}-\d{2}-\d{2}T\d{2}:\d{2}:\d{2}(\.\d+)?Z$" },
   { id := "MIFIR_030", name := "Quantity", dataType := some "decimal",
     requirement := .mandatory, recordPath := some "quantity" },
   { id := "MIFIR_033", name := "Price", dataType := some "decimal", requirement := .mandatory,
     recordPath := some "price.value" },
   { id := "MIFIR_034", name := "Price currency", dataType := some "ISO 4217",
     requirement := .conditional,
     conditionText := some "Required when price is expressed as a monetary value",
     condition := some (.leaf ⟨"price.type", .eq, some (.str "MONE")⟩),
     recordPath := some "price.currency", pattern := some r"^[A-Z]{3}$" },
   { id := "MIFIR_036", name := "Venue", dataType := some "MIC", requirement := .mandatory,
     recordPath := some "venue", pattern := some r"^[A-Z0-9]{4}$" },
   { id := "MIFIR_037", name := "Country of the branch membership", dataType := some "ISO 3166",
     requirement := .conditional,
     conditionText := some
       "Populated when the transaction is executed by a branch that is a member of the venue",
     recordPath := some "branch_country", pattern := some r"^[A-Z]{2}$" },
   { id := "MIFIR_041", name := "Instrument identification code", dataType := some "ISIN",
     requirement := .mandatory, recordPath := some "instrument.isin",
     pattern := some r"^[A-Z]{2}[A-Z0-9]{9}[0-9]$" },
   { id := "MIFIR_062", name := "Short selling indicator", requirement := .conditional,
     conditionText := some "Required when the seller sells shares or sovereign debt",
     condition := some (.leaf ⟨"side", .eq, some (.str "SELL")⟩),
     recordPath := some "short_selling_indicator",
     allowedValues := some ["SESH", "SSEX", "SELL", "UNDI"] }]

/-- The rules, in the order in which they are checked. -/
def rules : List Rule :=
  [{ id := "MIFIR_VR_001", name := "Executing entity LEI MOD 97-10", severity := .error,
     type := .format, expression := "Executing entity LEI check digits must be valid",
     affectedFields := ["MIFIR_004"] },
   { id := "MIFIR_VR_002", name := "Instrument ISIN Luhn check", severity := .error,
     type := .format, expression := "ISIN check digit must be valid",
     affectedFields := ["MIFIR_041"] },
   { id := "MIFIR_VR_003", name := "Venue is a valid MIC", severity := .error,
     type := .referential, expression := "Venue must be a valid ISO 10383 MIC",
     affectedFields := ["MIFIR_036"] },
   { id := "MIFIR_VR_004", name := "Transaction reference unique per executing entity",
     severity := .error, type := .uniqueness,
     expression := "Transaction reference number must be unique for the executing entity",
     affectedFields := ["MIFIR_004", "MIFIR_002"] },
   { id := "MIFIR_VR_005", name := "Buyer differs from seller", severity := .warning,
     type := .business,
     expression := "Buyer identification code must differ from seller identification code",
     affectedFields := ["MIFIR_007", "MIFIR_016"] },
   { id := "MIFIR_VR_006", name := "Report status values", severity := .error, type := .enum,
     expression := "Report status IN (NEWT, CANC)", affectedFields := ["MIFIR_001"] },
   { id := "MIFIR_VR_007", name := "Positive quantity", severity := .error, type := .business,
     expression := "Quantity must be greater than zero", affectedFields := ["MIFIR_030"],
     assertion := some (.leaf ⟨"quantity", .gt, some (.ofNat 0)⟩) },
   { id := "MIFIR_VR_008", name := "Branch country (ISO 3166)", severity := .warning,
     type := .referential,
     expression := "Country of the branch membership must be a valid ISO 3166 country code",
     affectedFields := ["MIFIR_037"] }]

/-- The package for transactions. -/
def package : Package where
  id := "MIFIR_TRANSACTIONS"
  regulationCode := "MIFIR"
  name := "MiFIR Article 26 transaction reporting"
  jurisdiction := some "EU"
  version := "RTS22"
  reportTypes := reportTypes
  fields := fields
  rules := rules
  fieldCount := some 13
  ruleCount := some 8

end RegulatoryReporting.Bundled.Mifir
