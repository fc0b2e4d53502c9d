import RegulatoryReporting.Package.Basic

/-!
# Derivatives Reporting under EMIR

A part of the fields and rules of EMIR REFIT, for trades, positions, valuations and
margins. The declared number of rules is not that of the list; declared counts decide
nothing.
-/

namespace RegulatoryReporting.Bundled.Emir

/-- The report types. -/
def reportTypes : List ReportType :=
  [{ code := "TRADE", name := "Trade state report",
     description := some "New trades and lifecycle events" },
   { code := "POSITION", name := "Position report" },
   { code := "VALUATION", name := "Valuation update" },
   { code := "MARGIN", name := "Margin update" }]

/-- The fields, in the order in which they are checked. -/
def fields : List Field :=
  [{ id := "EMIR_001", name := "Reporting timestamp", category := some "Counterparty data",
     dataType := some "datetime", requirement := .mandatory,
     recordPath := some "reporting_timestamp",
     pattern := some r"^\d{4}-\d{2}-\d{2}T\d{2}:\d{2}:\d{2}(\.\d+)?Z$" },
   { id := "EMIR_002", name := "Report submitting entity ID",
     category := some "Counterparty data", dataType := some "LEI", requirement := .mandatory,
     recordPath := some "parties[role=SUBMITTING].lei",
     pattern := some r"^[A-Z0-9]{18}[0-9]{2}$", maxLength := some 20 },
   { id := "EMIR_003", name := "Entity responsible for reporting",
     category := some "Counterparty data", dataType := some "LEI", requirement := .conditional,
     conditionText := some "Required when counterparty 1 is a non-financial counterparty",
     condition := some (.leaf ⟨"counterparty_1.nature", .eq, some (.str "N")⟩),
     recordPath := some "parties[role=RESPONSIBLE].lei",
     pattern := some r"^[A-Z0-9]{18}[0-9]{2}$" },
   { id := "EMIR_004", name := "Corporate sector of the counterparty 1",
     category := some "Counterparty data", requirement := .conditional,
     conditionText := some "Required when Nature = F",
     recordPath := some "counterparty_1.sector",
     allowedValues := some ["INVF", "INUN", "CDTI", "PNSF", "ASSU", "REIN", "UCIT", "AIFD",
       "CSDS", "CCPS"] },
   { id := "EMIR_005", name := "Counterparty 1 (Reporting counterparty)",
     category := some "Counterparty data", dataType := some "LEI", requirement := .mandatory,
     recordPath := some "parties[role=REPORTING].lei",
     pattern := some r"^[A-Z0-9]{18}[0-9]{2}$", maxLength := some 20 },
   { id := "EMIR_006", name := "Nature of the counterparty 1",
     category := some "Counterparty data", requirement := .mandatory,
     recordPath := some "counterparty_1.nature", allowedValues := some ["F", "N", "C", "O"] },
   { id := "EMIR_007", name := "Counterparty 2", category := some "Counterparty data",
     dataType := some "LEI", requirement := .mandatory,
     recordPath := some "parties[role=OTHER].lei", pattern := some r"^[A-Z0-9]{18}[0-9]{2}$",
     maxLength := some 20 },
   { id := "EMIR_008", name := "Direction", category := some "Counterparty data",
     requirement := .mandatory, recordPath := some "direction",
     allowedValues := some ["BYER", "SLLR"], reportTypes := some ["TRADE", "POSITION"] },
   { id := "EMIR_010", name := "UTI", category := some "Common data", dataType := some "UTI",
     requirement := .mandatory, recordPath := some "uti", maxLength := some 52,
     minLength := some 20 },
   { id := "EMIR_011", name := "UPI", category := some "Common data", dataType := some "UPI",
     requirement := .conditional,
     conditionText := some "Required when the ISIN is not populated",
     condition := some (.fieldNotExists "isin"), recordPath := some "upi",
     pattern := some r"^QZ[A-Z0-9]{10}$", reportTypes := some ["TRADE", "POSITION"] },
   { id := "EMIR_012", name := "ISIN", category := some "Common data", dataType := some "ISIN",
     requirement := .conditional,
     conditionText := some "Required when the derivative is traded on a trading venue",
     condition := some (.and [.fieldExists "venue_of_execution", .leaf ⟨"venue_of_execution",
       .notIn, some (.ofStrings ["XXXX", "XOFF"])⟩]),
     recordPath := some "isin", pattern := some r"^[A-Z]{2}[A-Z0-9]{9}[0-9]$",
     reportTypes := some ["TRADE", "POSITION"] },
   { id := "EMIR_013", name := "Cleared", category := some "Common data",
     requirement := .mandatory, recordPath := some "cleared",
     allowedValues := some ["Y", "N", "I"], reportTypes := some ["TRADE", "POSITION"] },
   { id := "EMIR_014", name := "Central counterparty", category := some "Common data",
     dataType := some "LEI", requirement := .conditional,
     conditionText := some "Required when Cleared = Y",
     condition := some (.leaf ⟨"cleared", .eq, some (.str "Y")⟩),
     recordPath := some "parties[role=CCP].lei", pattern := some r"^[A-Z0-9]{18}[0-9]{2}$",
     reportTypes := some ["TRADE", "POSITION"] },
   { id := "EMIR_015", name := "Venue of execution", category := some "Common data",
     dataType := some "MIC", requirement := .mandatory, recordPath := some "venue_of_execution",
     pattern := some r"^[A-Z0-9]{4}$", reportTypes := some ["TRADE"] },
   { id := "EMIR_016", name := "Notional currency 1", category := some "Common data",
     dataType := some "ISO 4217", requirement := .mandatory,
     recordPath := some "notional.currency", pattern := some r"^[A-Z]{3}$",
     reportTypes := some ["TRADE", "POSITION"] },
   { id := "EMIR_017", name := "Notional amount of leg 1", category := some "Common data",
     dataType := some "decimal", requirement := .mandatory,
     recordPath := some "notional.amount", reportTypes := some ["TRADE", "POSITION"] },
   { id := "EMIR_018", name := "Execution timestamp", category := some "Common data",
     dataType := some "datetime", requirement := .mandatory,
     recordPath := some "execution_timestamp",
     pattern := some r"^\d{4}-\d{2}-\d{2}T\d{2}:\d{2}:\d{2}(\.\d+)?Z$",
     reportTypes := some ["TRADE"] },
   { id := "EMIR_019", name := "Effective date", category := some "Common data",
     dataType := some "date", requirement := .optional, recordPath := some "effective_date",
     pattern := some r"^\d{4}-\d{2}-\d{2}$", reportTypes := some ["TRADE", "POSITION"] },
   { id := "EMIR_020", name := "Expiration date", category := some "Common data",
     dataType := some "date", requirement := .conditional,
     conditionText := some "Required for derivatives with a defined maturity",
     recordPath := some "expiration_date", pattern := some r"^\d{4}-\d{2}-\d{2}$",
     reportTypes := some ["TRADE", "POSITION"] },
   { id := "EMIR_021", name := "Action type", category := some "Lifecycle",
     requirement := .mandatory, recordPath := some "action_type",
     allowedValues := some ["NEWT", "MODI", "CORR", "TERM", "EROR", "REVI", "VALU", "POSI",
       "MARU"] },
   { id := "EMIR_022", name := "Event date", category := some "Lifecycle",
     dataType := some "date", requirement := .conditional,
     conditionText := some "Required when Action type is MODI, CORR or TERM",
     condition := some (.leaf ⟨"action_type", .in, some (.ofStrings ["MODI", "CORR", "TERM"])⟩),
     recordPath := some "event_date", pattern := some r"^\d{4}-\d{2}-\d{2}$" },
   { id := "EMIR_030", name := "Valuation amount", category := some "Valuation",
     dataType := some "decimal", requirement := .mandatory,
     recordPath := some "valuation.amount", reportTypes := some ["VALUATION"] },
   { id := "EMIR_031", name := "Valuation currency", category := some "Valuation",
     dataType := some "ISO 4217", requirement := .mandatory,
     recordPath := some "valuation.currency", pattern := some r"^[A-Z]{3}$",
     reportTypes := some ["VALUATION"] },
   { id := "EMIR_032", name := "Valuation timestamp", category := some "Valuation",
     dataType := some "datetime", requirement := .mandatory,
     recordPath := some "valuation.timestamp",
     pattern := some r"^\d{4}-\d{2}-\d{2}T\d{2}:\d{2}:\d{2}(\.\d+)?Z$",
     reportTypes := some ["VALUATION"] },
   { id := "EMIR_040", name := "Collateral portfolio code", category := some "Margin",
     requirement := .mandatory, recordPath := some "collateral.portfolio_code",
     maxLength := some 52, reportTypes := some ["MARGIN"] },
   { id := "EMIR_041", name := "Initial margin posted", category := some "Margin",
     dataType := some "decimal", requirement := .optional,
     recordPath := some "collateral.initial_margin_posted", reportTypes := some ["MARGIN"] },
   { id := "EMIR_042", name := "Currency of the initial margin posted",
     category := some "Margin", dataType := some "ISO 4217", requirement := .conditional,
     conditionText := some "Required when initial margin posted is reported",
     condition := some (.fieldExists "collateral.initial_margin_posted"),
     recordPath := some "collateral.initial_margin_currency", pattern := some r"^[A-Z]{3}$",
     reportTypes := some ["MARGIN"] }]

/-- The rules, in the order in which they are checked. -/
def rules : List Rule :=
  [{ id := "EMIR_VR_001", name := "LEI check digits (ISO 17442 MOD 97-10)", severity := .error,
     type := .format, expression := "LEI check digits must satisfy MOD 97-10",
     affectedFields := ["EMIR_005", "EMIR_007"] },
   { id := "EMIR_VR_002", name := "ISIN check digit (ISO 6166 Luhn)", severity := .error,
     type := .format, expression := "Last ISIN digit must match the Luhn check digit",
     affectedFields := ["EMIR_012"], reportTypes := some ["TRADE", "POSITION"] },
   { id := "EMIR_VR_003", name := "CCP required for cleared trades", severity := .error,
     type := .crossField, expression := "IF Cleared = Y THEN CCP_ID is not empty",
     affectedFields := ["EMIR_013", "EMIR_014"],
     assertion := some (.fieldExists "parties[role=CCP].lei"),
     precondition := some (.leaf ⟨"cleared", .eq, some (.str "Y")⟩),
     reportTypes := some ["TRADE", "POSITION"] },
   { id := "EMIR_VR_004", name := "Expiration after effective date", severity := .warning,
     type := .crossField,
     expression := "Expiration date must be on or after the effective date",
     affectedFields := ["EMIR_019", "EMIR_020"], reportTypes := some ["TRADE", "POSITION"] },
   { id := "EMIR_VR_005", name := "Action type values", severity := .error,
     type := .enumeration,
     expression := "Action type IN (NEWT, MODI, CORR, TERM, EROR, REVI, VALU, POSI, MARU)",
     affectedFields := ["EMIR_021"] },
   { id := "EMIR_VR_006", name := "Notional currency (ISO 4217)", severity := .error,
     type := .referential,
     expression := "Notional currency must be a valid ISO 4217 currency code",
     affectedFields := ["EMIR_016"], reportTypes := some ["TRADE", "POSITION"] },
   { id := "EMIR_VR_007", name := "Venue of execution (ISO 10383 MIC)", severity := .warning,
     type := .referential,
     expression := "Venue of execution must be a registered MIC, XXXX or XOFF",
     affectedFields := ["EMIR_015"], reportTypes := some ["TRADE"] },
   { id := "EMIR_VR_008", name := "UTI unique per reporting counterparty", severity := .error,
     type := .uniqueness, expression := "UTI must be unique per reporting counterparty",
     affectedFields := ["EMIR_005", "EMIR_010"] },
   { id := "EMIR_VR_009", name := "Reporting after execution", severity := .error,
     type := .business,
     expression := "Reporting timestamp must not precede execution timestamp",
     affectedFields := ["EMIR_001", "EMIR_018"], reportTypes := some ["TRADE"] },
   { id := "EMIR_VR_010", name := "Valuation data present", severity := .error,
     type := .required,
     expression := "Valuation amount and currency are required for valuation reports",
     affectedFields := ["EMIR_030", "EMIR_031"], reportTypes := some ["VALUATION"] },
   { id := "EMIR_VR_011", name := "Positive notional", severity := .error, type := .business,
     expression := "Notional amount must be greater than zero", affectedFields := ["EMIR_017"],
     assertion := some (.leaf ⟨"notional.amount", .gt, some (.ofNat 0)⟩),
     reportTypes := some ["TRADE", "POSITION"] },
   { id := "EMIR_VR_012", name := "UTI format", severity := .error, type := .format,
     expression :=
       "UTI must start with the LEI of the generating entity followed by up to 32 characters",
     affectedFields := ["EMIR_010"] }]

/-- The package for derivatives. -/
def package : Package where
  id := "EMIR_REFIT"
  regulationCode := "EMIR"
  name := "EMIR REFIT derivatives reporting"
  jurisdiction := some "EU"
  version := "2024.1"
  reportTypes := reportTypes
  fields := fields
  rules := rules
  fieldCount := some 27
  ruleCount := some 11

end RegulatoryReporting.Bundled.Emir
