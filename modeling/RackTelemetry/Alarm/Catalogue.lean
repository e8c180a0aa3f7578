import RackTelemetry.Alarm.Rule

/-!
The alarms that a network card reports: lost communication and readings out of range of environment
devices, active contacts, and overload, battery and bypass conditions of the power distribution.
-/

namespace RackTelemetry

/-- The beginning of every topic. The version is written with an unescaped point, so any character
but a line feed may stand in its place. -/
def topicRoot : Pattern := .lit "mbdetnrs/1" ++ .one .any ++ .lit "0/"

def deviceTopic : Pattern := topicRoot ++ .lit "sensors/devices/" ++ .step

def inputTopic : Pattern := topicRoot ++ .lit "powerDistributions/1/inputs/" ++ .many .digit 1

namespace AlarmTable

def sensorTopic (kind : SensorKind) : Pattern :=
  .whole (deviceTopic ++ .lit "/channels/" ++ .group (.lit kind.channelName) ++ .lit "/" ++ .step)

/-- A reading out of range: the status of the sensor, and an active alarm. -/
def reading (code : String) (kind : SensorKind) (raised text : String) : AlarmRule :=
  { codes := code
    topic := sensorTopic kind
    actions := [.object (.sensor (some "status")) raised "good", .alarm text] }

def card : AlarmTable := [
  { codes := "1100"
    topic := .whole deviceTopic
    actions := [.object (.device "present") "no" "yes", .alarm "Ambient communication lost"] },
  reading "1200" .temperature "warning-low" "Ambient temperature low warning",
  reading "1201" .temperature "critical-low" "Ambient temperature low critical",
  reading "1202" .temperature "warning-high" "Ambient temperature high warning",
  reading "1203" .temperature "critical-high" "Ambient temperature high critical",
  reading "1300" .humidity "warning-low" "Ambient humidity low warning",
  reading "1301" .humidity "critical-low" "Ambient humidity low critical",
  reading "1302" .humidity "warning-high" "Ambient humidity high warning",
  reading "1303" .humidity "critical-high" "Ambient humidity high critical",
  { codes := "1400"
    topic := sensorTopic .digitalInput
    actions := [.alarm "Ambient contact active"] },
  { codes := "2000,2001"
    topic := .whole inputTopic
    actions := [.status "OVER", .alarm "Input overload"] },
  { codes := "3000"
    topic := .whole (inputTopic ++ .lit "/batteries")
    actions := [.status "RB", .alarm "Replace battery"] },
  { codes := "3001,3002"
    topic := .whole (inputTopic ++ .lit "/batteries")
    actions := [.status "LB", .alarm "Battery low"] },
  { codes := "4100"
    topic := .whole (topicRoot ++ .lit "powerDistributions/1/outputs/" ++ .many .digit 1)
    actions := [.status "BYPASS"] }]

end AlarmTable

end RackTelemetry
