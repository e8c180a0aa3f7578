import RackTelemetry.Alarm.Catalogue
import RackTelemetry.Topic.Rule

/-!
The paths of a network card: identification and measures of the card and its power distribution, the
environment devices with their sensors, the outlets, and the list of active alarms.
-/

namespace RackTelemetry.TopicTable

def managerPath (rest : String) : Pattern := .whole (topicRoot ++ .lit "managers/1/" ++ .lit rest)

def powerPath (rest : String) : Pattern :=
  .whole (topicRoot ++ .lit "powerDistributions/1/" ++ .lit rest)

def devicePath (rest : Pattern) : Pattern := .whole (deviceTopic ++ rest)

/-- The channel of one of several kinds of sensors. -/
def channel (kinds : List SensorKind) : Pattern :=
  .lit "/channels/" ++ .group (.oneOf (kinds.map SensorKind.channelName))

def sensorPath (kinds : List SensorKind) (rest : String) : Pattern :=
  devicePath (channel kinds ++ .lit "/" ++ .step ++ .lit rest)

/-- A path below one sensor of a kind that is not captured. -/
def knownSensorPath (kind : SensorKind) (rest : String) : Pattern :=
  devicePath (.lit ("/channels/" ++ kind.channelName ++ "/") ++ .step ++ .lit rest)

def outletPath (rest : String) : Pattern :=
  .whole (topicRoot ++ .lit "powerDistributions/1/outlets/" ++ .step ++ .lit rest)

def alarmPath (rest : String) : Pattern :=
  .whole (topicRoot ++ .lit "alarmService/activeAlarms/members/" ++ .number ++ .lit rest)

def identification (step field : String) : TopicRule :=
  .handled (devicePath (.lit ("/identification/" ++ step))) (some (.device field)) .deviceData

def threshold (step field : String) : TopicRule :=
  .handled (sensorPath [.temperature, .humidity] ("/alarms/thresholds/" ++ step))
    (some (.sensor (some field))) .sensorData

def card : TopicTable := [
  .direct (managerPath "identification/firmwareVersion") "ups.firmware.aux",
  .direct (powerPath "identification/vendor") "device.mfr",
  .direct (powerPath "identification/model") "device.model",
  .direct (powerPath "identification/serialNumber") "device.serial",
  .direct (managerPath "identification/location") "device.location",
  .direct (managerPath "identification/contact") "device.contact",
  .direct (powerPath "identification/firmwareVersion") "ups.firmware",
  .direct (powerPath "inputs/1/measures/realtime/current") "output.current",
  .direct (powerPath "inputs/1/measures/realtime/frequency") "output.frequency",
  .direct (powerPath "inputs/1/measures/realtime/voltage") "output.voltage",
  .direct (powerPath "inputs/1/measures/realtime/percentLoad") "ups.load",
  .direct (powerPath "inputs/1/batteries/measures/voltage") "battery.voltage",
  .direct (powerPath "inputs/1/batteries/measures/remainingChargeCapacity") "battery.charge",
  .direct (powerPath "inputs/1/batteries/measures/remainingTime") "battery.runtime",
  .handled (.whole (topicRoot ++ .lit "sensors/devices/members@count")) none .deviceCount,
  .handled (.whole (topicRoot ++ .lit "sensors/devices/members/" ++ .number ++ .lit "/@id")) none
    .deviceIndex,
  identification "manufacturer" "mfr",
  identification "model" "model",
  identification "serial" "serial",
  identification "version" "firmware",
  identification "name" "name",
  .handled (devicePath (.lit "/communication/state")) (some (.device "present")) .devicePresence,
  .handled (devicePath (channel SensorKind.all ++ .lit "/members@count")) none .sensorCount,
  .handled (devicePath (channel SensorKind.all ++ .lit "/members/" ++ .number ++ .lit "/@id")) none
    .sensorIndex,
  .handled (sensorPath [.temperature, .humidity] "/identification/name")
    (some (.sensor (some "name"))) .sensorData,
  threshold "lowCritical" "low.critical",
  threshold "lowWarning" "low.warning",
  threshold "highCritical" "high.critical",
  threshold "highWarning" "high.warning",
  .handled (knownSensorPath .temperature "/measure/current") (some (.sensor none))
    .temperatureValue,
  .handled (sensorPath [.humidity] "/measure/current") (some (.sensor none)) .sensorData,
  .handled (sensorPath [.temperature, .humidity] "/configuration/enabled") none .sensorEnable,
  .handled (sensorPath [.digitalInput] "/identification/name") (some (.sensor (some "name")))
    .sensorData,
  .handled (knownSensorPath .digitalInput "/configuration/activeLow")
    (some (.sensor (some "config"))) .contactConfig,
  .handled (sensorPath [.digitalInput] "/configuration/enabled") none .sensorEnable,
  .handled (knownSensorPath .digitalInput "/measure/active") (some (.sensor (some "status")))
    .contactStatus,
  .handled (powerPath "outlets/members@count") none .outletCount,
  .handled (.whole (topicRoot ++ .lit "powerDistributions/1/outlets/members/" ++ .number ++
    .lit "/@id")) none .outletIndex,
  .handled (outletPath "/identification/name") (some (.outlet "name")) .outletData,
  .handled (outletPath "/identification/physicalName") (some (.outlet "id")) .outletData,
  .handled (outletPath "/configuration/switchable") (some (.outlet "switchable")) .outletSwitchable,
  .handled (.whole (topicRoot ++ .lit "alarmService/activeAlarms/members@count")) none .alarmCount,
  .handled (alarmPath "/id") none (.alarmField .id),
  .handled (alarmPath "/level") none (.alarmField .level),
  .handled (alarmPath "/code") none (.alarmField .code),
  .handled (alarmPath "/device/@id") none (.alarmField .topic)]

end RackTelemetry.TopicTable
