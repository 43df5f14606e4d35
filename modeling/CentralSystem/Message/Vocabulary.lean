import CentralSystem.Message.Shape

namespace CentralSystem

inductive ConnectorStatus where
  | available
  | preparing
  | charging
  | suspendedEVSE
  | suspendedEV
  | finishing
  | reserved
  | unavailable
  | faulted
deriving DecidableEq, Inhabited, Repr

def ConnectorStatus.name : ConnectorStatus → String
  | .available => "Available"
  | .preparing => "Preparing"
  | .charging => "Charging"
  | .suspendedEVSE => "SuspendedEVSE"
  | .suspendedEV => "SuspendedEV"
  | .finishing => "Finishing"
  | .reserved => "Reserved"
  | .unavailable => "Unavailable"
  | .faulted => "Faulted"

def ConnectorStatus.enumeration : Enumeration ConnectorStatus where
  all := [.available, .preparing, .charging, .suspendedEVSE, .suspendedEV, .finishing, .reserved,
    .unavailable, .faulted]
  name := ConnectorStatus.name

inductive ErrorCode where
  | connectorLockFailure
  | evCommunicationError
  | groundFailure
  | highTemperature
  | internalError
  | localListConflict
  | noError
  | otherError
  | overCurrentFailure
  | overVoltage
  | powerMeterFailure
  | powerSwitchFailure
  | readerFailure
  | resetFailure
  | underVoltage
  | weakSignal
deriving DecidableEq, Inhabited, Repr

def ErrorCode.name : ErrorCode → String
  | .connectorLockFailure => "ConnectorLockFailure"
  | .evCommunicationError => "EVCommunicationError"
  | .groundFailure => "GroundFailure"
  | .highTemperature => "HighTemperature"
  | .internalError => "InternalError"
  | .localListConflict => "LocalListConflict"
  | .noError => "NoError"
  | .otherError => "OtherError"
  | .overCurrentFailure => "OverCurrentFailure"
  | .overVoltage => "OverVoltage"
  | .powerMeterFailure => "PowerMeterFailure"
  | .powerSwitchFailure => "PowerSwitchFailure"
  | .readerFailure => "ReaderFailure"
  | .resetFailure => "ResetFailure"
  | .underVoltage => "UnderVoltage"
  | .weakSignal => "WeakSignal"

def ErrorCode.enumeration : Enumeration ErrorCode where
  all := [.connectorLockFailure, .evCommunicationError, .groundFailure, .highTemperature,
    .internalError, .localListConflict, .noError, .otherError, .overCurrentFailure, .overVoltage,
    .powerMeterFailure, .powerSwitchFailure, .readerFailure, .resetFailure, .underVoltage,
    .weakSignal]
  name := ErrorCode.name

inductive StopReason where
  | deAuthorized
  | emergencyStop
  | evDisconnected
  | hardReset
  | local
  | other
  | powerLoss
  | reboot
  | remote
  | softReset
  | unlockCommand
deriving DecidableEq, Inhabited, Repr

def StopReason.name : StopReason → String
  | .deAuthorized => "DeAuthorized"
  | .emergencyStop => "EmergencyStop"
  | .evDisconnected => "EVDisconnected"
  | .hardReset => "HardReset"
  | .local => "Local"
  | .other => "Other"
  | .powerLoss => "PowerLoss"
  | .reboot => "Reboot"
  | .remote => "Remote"
  | .softReset => "SoftReset"
  | .unlockCommand => "UnlockCommand"

def StopReason.enumeration : Enumeration StopReason where
  all := [.deAuthorized, .emergencyStop, .evDisconnected, .hardReset, .local, .other, .powerLoss,
    .reboot, .remote, .softReset, .unlockCommand]
  name := StopReason.name

inductive ReadingContext where
  | interruptionBegin
  | interruptionEnd
  | other
  | sampleClock
  | samplePeriodic
  | transactionBegin
  | transactionEnd
  | trigger
deriving DecidableEq, Inhabited, Repr

def ReadingContext.name : ReadingContext → String
  | .interruptionBegin => "Interruption.Begin"
  | .interruptionEnd => "Interruption.End"
  | .other => "Other"
  | .sampleClock => "Sample.Clock"
  | .samplePeriodic => "Sample.Periodic"
  | .transactionBegin => "Transaction.Begin"
  | .transactionEnd => "Transaction.End"
  | .trigger => "Trigger"

def ReadingContext.enumeration : Enumeration ReadingContext where
  all := [.interruptionBegin, .interruptionEnd, .other, .sampleClock, .samplePeriodic,
    .transactionBegin, .transactionEnd, .trigger]
  name := ReadingContext.name

inductive ValueFormat where
  | raw
  | signedData
deriving DecidableEq, Inhabited, Repr

def ValueFormat.name : ValueFormat → String
  | .raw => "Raw"
  | .signedData => "SignedData"

def ValueFormat.enumeration : Enumeration ValueFormat where
  all := [.raw, .signedData]
  name := ValueFormat.name

inductive Measurand where
  | currentExport
  | currentImport
  | currentOffered
  | energyActiveExportRegister
  | energyActiveImportRegister
  | energyReactiveExportRegister
  | energyReactiveImportRegister
  | energyActiveExportInterval
  | energyActiveImportInterval
  | energyReactiveExportInterval
  | energyReactiveImportInterval
  | frequency
  | powerActiveExport
  | powerActiveImport
  | powerFactor
  | powerOffered
  | powerReactiveExport
  | powerReactiveImport
  | rpm
  | soC
  | temperature
  | voltage
deriving DecidableEq, Inhabited, Repr

def Measurand.name : Measurand → String
  | .currentExport => "Current.Export"
  | .currentImport => "Current.Import"
  | .currentOffered => "Current.Offered"
  | .energyActiveExportRegister => "Energy.Active.Export.Register"
  | .energyActiveImportRegister => "Energy.Active.Import.Register"
  | .energyReactiveExportRegister => "Energy.Reactive.Export.Register"
  | .energyReactiveImportRegister => "Energy.Reactive.Import.Register"
  | .energyActiveExportInterval => "Energy.Active.Export.Interval"
  | .energyActiveImportInterval => "Energy.Active.Import.Interval"
  | .energyReactiveExportInterval => "Energy.Reactive.Export.Interval"
  | .energyReactiveImportInterval => "Energy.Reactive.Import.Interval"
  | .frequency => "Frequency"
  | .powerActiveExport => "Power.Active.Export"
  | .powerActiveImport => "Power.Active.Import"
  | .powerFactor => "Power.Factor"
  | .powerOffered => "Power.Offered"
  | .powerReactiveExport => "Power.Reactive.Export"
  | .powerReactiveImport => "Power.Reactive.Import"
  | .rpm => "RPM"
  | .soC => "SoC"
  | .temperature => "Temperature"
  | .voltage => "Voltage"

def Measurand.enumeration : Enumeration Measurand where
  all := [.currentExport, .currentImport, .currentOffered, .energyActiveExportRegister,
    .energyActiveImportRegister, .energyReactiveExportRegister, .energyReactiveImportRegister,
    .energyActiveExportInterval, .energyActiveImportInterval, .energyReactiveExportInterval,
    .energyReactiveImportInterval, .frequency, .powerActiveExport, .powerActiveImport,
    .powerFactor, .powerOffered, .powerReactiveExport, .powerReactiveImport, .rpm, .soC,
    .temperature, .voltage]
  name := Measurand.name

inductive Phase where
  | l1
  | l2
  | l3
  | n
  | l1N
  | l2N
  | l3N
  | l1L2
  | l2L3
  | l3L1
deriving DecidableEq, Inhabited, Repr

def Phase.name : Phase → String
  | .l1 => "L1"
  | .l2 => "L2"
  | .l3 => "L3"
  | .n => "N"
  | .l1N => "L1-N"
  | .l2N => "L2-N"
  | .l3N => "L3-N"
  | .l1L2 => "L1-L2"
  | .l2L3 => "L2-L3"
  | .l3L1 => "L3-L1"

def Phase.enumeration : Enumeration Phase where
  all := [.l1, .l2, .l3, .n, .l1N, .l2N, .l3N, .l1L2, .l2L3, .l3L1]
  name := Phase.name

inductive MeterLocation where
  | body
  | cable
  | ev
  | inlet
  | outlet
deriving DecidableEq, Inhabited, Repr

def MeterLocation.name : MeterLocation → String
  | .body => "Body"
  | .cable => "Cable"
  | .ev => "EV"
  | .inlet => "Inlet"
  | .outlet => "Outlet"

def MeterLocation.enumeration : Enumeration MeterLocation where
  all := [.body, .cable, .ev, .inlet, .outlet]
  name := MeterLocation.name

inductive UnitOfMeasure where
  | wattHour
  | kiloWattHour
  | varHour
  | kiloVarHour
  | watt
  | kiloWatt
  | voltAmpere
  | kiloVoltAmpere
  | voltAmpereReactive
  | kiloVar
  | ampere
  | volt
  | celsius
  | fahrenheit
  | kelvin
  | percent
deriving DecidableEq, Inhabited, Repr

def UnitOfMeasure.name : UnitOfMeasure → String
  | .wattHour => "Wh"
  | .kiloWattHour => "kWh"
  | .varHour => "varh"
  | .kiloVarHour => "kvarh"
  | .watt => "W"
  | .kiloWatt => "kW"
  | .voltAmpere => "VA"
  | .kiloVoltAmpere => "kVA"
  | .voltAmpereReactive => "var"
  | .kiloVar => "kvar"
  | .ampere => "A"
  | .volt => "V"
  | .celsius => "Celsius"
  | .fahrenheit => "Fahrenheit"
  | .kelvin => "K"
  | .percent => "Percent"

/-- Stations in the field also misspell the unit of a temperature. -/
def UnitOfMeasure.enumeration : Enumeration UnitOfMeasure where
  all := [.wattHour, .kiloWattHour, .varHour, .kiloVarHour, .watt, .kiloWatt, .voltAmpere,
    .kiloVoltAmpere, .voltAmpereReactive, .kiloVar, .ampere, .volt, .celsius, .fahrenheit, .kelvin,
    .percent]
  name := UnitOfMeasure.name
  aliases := fun u => if u = .celsius then ["Celcius"] else []

inductive DiagnosticsStatus where
  | idle
  | uploaded
  | uploadFailed
  | uploading
deriving DecidableEq, Inhabited, Repr

def DiagnosticsStatus.name : DiagnosticsStatus → String
  | .idle => "Idle"
  | .uploaded => "Uploaded"
  | .uploadFailed => "UploadFailed"
  | .uploading => "Uploading"

def DiagnosticsStatus.enumeration : Enumeration DiagnosticsStatus where
  all := [.idle, .uploaded, .uploadFailed, .uploading]
  name := DiagnosticsStatus.name

inductive FirmwareStatus where
  | downloaded
  | downloadFailed
  | downloading
  | idle
  | installationFailed
  | installing
  | installed
deriving DecidableEq, Inhabited, Repr

def FirmwareStatus.name : FirmwareStatus → String
  | .downloaded => "Downloaded"
  | .downloadFailed => "DownloadFailed"
  | .downloading => "Downloading"
  | .idle => "Idle"
  | .installationFailed => "InstallationFailed"
  | .installing => "Installing"
  | .installed => "Installed"

def FirmwareStatus.enumeration : Enumeration FirmwareStatus where
  all := [.downloaded, .downloadFailed, .downloading, .idle, .installationFailed, .installing,
    .installed]
  name := FirmwareStatus.name

inductive ProfilePurpose where
  | chargePointMaxProfile
  | txDefaultProfile
  | txProfile
deriving DecidableEq, Inhabited, Repr

def ProfilePurpose.name : ProfilePurpose → String
  | .chargePointMaxProfile => "ChargePointMaxProfile"
  | .txDefaultProfile => "TxDefaultProfile"
  | .txProfile => "TxProfile"

def ProfilePurpose.enumeration : Enumeration ProfilePurpose where
  all := [.chargePointMaxProfile, .txDefaultProfile, .txProfile]
  name := ProfilePurpose.name

inductive ProfileKind where
  | absolute
  | recurring
  | relative
deriving DecidableEq, Inhabited, Repr

def ProfileKind.name : ProfileKind → String
  | .absolute => "Absolute"
  | .recurring => "Recurring"
  | .relative => "Relative"

def ProfileKind.enumeration : Enumeration ProfileKind where
  all := [.absolute, .recurring, .relative]
  name := ProfileKind.name

inductive Recurrency where
  | daily
  | weekly
deriving DecidableEq, Inhabited, Repr

def Recurrency.name : Recurrency → String
  | .daily => "Daily"
  | .weekly => "Weekly"

def Recurrency.enumeration : Enumeration Recurrency where
  all := [.daily, .weekly]
  name := Recurrency.name

inductive RateUnit where
  | watt
  | ampere
deriving DecidableEq, Inhabited, Repr

def RateUnit.name : RateUnit → String
  | .watt => "W"
  | .ampere => "A"

def RateUnit.enumeration : Enumeration RateUnit where
  all := [.watt, .ampere]
  name := RateUnit.name

inductive MessageTrigger where
  | bootNotification
  | diagnosticsStatusNotification
  | firmwareStatusNotification
  | heartbeat
  | meterValues
  | statusNotification
deriving DecidableEq, Inhabited, Repr

def MessageTrigger.name : MessageTrigger → String
  | .bootNotification => "BootNotification"
  | .diagnosticsStatusNotification => "DiagnosticsStatusNotification"
  | .firmwareStatusNotification => "FirmwareStatusNotification"
  | .heartbeat => "Heartbeat"
  | .meterValues => "MeterValues"
  | .statusNotification => "StatusNotification"

def MessageTrigger.enumeration : Enumeration MessageTrigger where
  all := [.bootNotification, .diagnosticsStatusNotification, .firmwareStatusNotification,
    .heartbeat, .meterValues, .statusNotification]
  name := MessageTrigger.name

inductive AuthorizationStatus where
  | accepted
  | blocked
  | expired
  | invalid
  | concurrentTx
deriving DecidableEq, Inhabited, Repr

def AuthorizationStatus.name : AuthorizationStatus → String
  | .accepted => "Accepted"
  | .blocked => "Blocked"
  | .expired => "Expired"
  | .invalid => "Invalid"
  | .concurrentTx => "ConcurrentTx"

def AuthorizationStatus.enumeration : Enumeration AuthorizationStatus where
  all := [.accepted, .blocked, .expired, .invalid, .concurrentTx]
  name := AuthorizationStatus.name

inductive RegistrationStatus where
  | accepted
  | pending
  | rejected
deriving DecidableEq, Inhabited, Repr

def RegistrationStatus.name : RegistrationStatus → String
  | .accepted => "Accepted"
  | .pending => "Pending"
  | .rejected => "Rejected"

def RegistrationStatus.enumeration : Enumeration RegistrationStatus where
  all := [.accepted, .pending, .rejected]
  name := RegistrationStatus.name

inductive DataTransferStatus where
  | accepted
  | rejected
  | unknownMessageId
  | unknownVendorId
deriving DecidableEq, Inhabited, Repr

def DataTransferStatus.name : DataTransferStatus → String
  | .accepted => "Accepted"
  | .rejected => "Rejected"
  | .unknownMessageId => "UnknownMessageId"
  | .unknownVendorId => "UnknownVendorId"

def DataTransferStatus.enumeration : Enumeration DataTransferStatus where
  all := [.accepted, .rejected, .unknownMessageId, .unknownVendorId]
  name := DataTransferStatus.name

end CentralSystem
