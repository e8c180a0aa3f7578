import RackTelemetry.Topic.Catalogue

/-!
The topics whose messages are taken, and the subscriptions that deliver them. A subscription may
deliver more than is taken: its plus sign stands for any one step.
-/

namespace RackTelemetry

/-- The topics that are taken: those that one of the patterns matches. -/
abbrev TopicFilter := List Pattern

namespace TopicFilter

/-- The filter of patterns that are given as text. -/
def ofSources (sources : List String) : Except Error TopicFilter :=
  sources.mapM TopicTable.readPattern

def accepts (filter : TopicFilter) (topic : String) : Bool :=
  filter.any fun pattern => pattern.isMatch topic

def anyStep : Pattern := .many .notSlash 1

def anyNumber : Pattern := .many .digit 1

def choice (texts : List String) : Pattern := .group (.oneOf texts)

def card : TopicFilter := [
  .whole (topicRoot ++ .lit "managers/1/identification"),
  .whole (topicRoot ++ .lit "powerDistributions/1/identification"),
  .whole (topicRoot ++ .lit "powerDistributions/1/" ++ choice ["inputs", "outputs"] ++ .lit "/" ++
    anyNumber ++ .lit "/measures"),
  .whole (topicRoot ++ .lit "powerDistributions/1/inputs/" ++ anyNumber ++
    .lit "/batteries/measures"),
  .whole (topicRoot ++ .lit "powerDistributions/1/outlets"),
  .whole (topicRoot ++ .lit "powerDistributions/1/outlets/" ++ anyStep ++ .lit "/" ++
    choice ["identification", "configuration"]),
  .whole (topicRoot ++ .lit "sensors/devices"),
  .whole (topicRoot ++ .lit "sensors/devices/" ++ anyStep ++ .lit "/" ++
    choice ["identification", "communication"]),
  .whole (topicRoot ++ .lit "sensors/devices/" ++ anyStep ++ .lit "/channels/" ++
    choice (SensorKind.all.map SensorKind.channelName)),
  .whole (topicRoot ++ .lit "sensors/devices/" ++ anyStep ++ .lit "/channels/" ++
    choice (SensorKind.all.map SensorKind.channelName) ++ .lit "/" ++ anyStep ++ .lit "/" ++
    choice ["identification", "configuration", "alarms", "measure"]),
  .whole (topicRoot ++ .lit "alarmService/activeAlarms")]

/-- The subscriptions that deliver the topics of the card. -/
def subscriptions : List String := [
  "mbdetnrs/1.0/managers/1/identification",
  "mbdetnrs/1.0/powerDistributions/1/identification",
  "mbdetnrs/1.0/powerDistributions/1/inputs/+/measures",
  "mbdetnrs/1.0/powerDistributions/1/outputs/+/measures",
  "mbdetnrs/1.0/powerDistributions/1/inputs/+/batteries/measures",
  "mbdetnrs/1.0/powerDistributions/1/outlets",
  "mbdetnrs/1.0/powerDistributions/1/outlets/+/identification",
  "mbdetnrs/1.0/powerDistributions/1/outlets/+/configuration",
  "mbdetnrs/1.0/sensors/devices",
  "mbdetnrs/1.0/sensors/devices/+/identification",
  "mbdetnrs/1.0/sensors/devices/+/communication",
  "mbdetnrs/1.0/sensors/devices/+/channels/+",
  "mbdetnrs/1.0/sensors/devices/+/channels/+/+/identification",
  "mbdetnrs/1.0/sensors/devices/+/channels/+/+/configuration",
  "mbdetnrs/1.0/sensors/devices/+/channels/+/+/alarms",
  "mbdetnrs/1.0/sensors/devices/+/channels/+/+/measure",
  "mbdetnrs/1.0/alarmService/activeAlarms"]

end TopicFilter

end RackTelemetry
