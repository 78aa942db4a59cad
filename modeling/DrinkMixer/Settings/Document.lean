import DrinkMixer.Json.Record
import DrinkMixer.Settings.Check

/-!
# Settings documents

The names under which settings appear in documents, reading settings with their range checks, and
where the document may be found.
-/

namespace DrinkMixer

open Json

/-- The form of servo settings. -/
def ServoSettings.schema : Schema ServoSettings where
  expected := "struct PwmConfig"
  default := {}
  fields := [
    .of "i2c_address" ServoSettings.address fun s v => { s with address := v },
    .of "frequency_hz" ServoSettings.frequency fun s v => { s with frequency := v },
    .of "servo_min" ServoSettings.pulseMin fun s v => { s with pulseMin := v },
    .of "servo_max" ServoSettings.pulseMax fun s v => { s with pulseMax := v },
    .of "min_hold_ms" ServoSettings.holdMinMs fun s v => { s with holdMinMs := v },
    .of "max_hold_ms" ServoSettings.holdMaxMs fun s v => { s with holdMaxMs := v },
    .of "mix_channel" ServoSettings.mixOutput fun s v => { s with mixOutput := v }]

/-- The form of contactless reader settings. -/
def TagSettings.schema : Schema TagSettings where
  expected := "struct ReaderConfig"
  default := {}
  fields := [
    .of "auth_key" TagSettings.key fun s v => { s with key := v },
    .of "data_block" TagSettings.block fun s v => { s with block := v },
    .of "uid_poll_interval_ms" TagSettings.pollIntervalMs fun s v => { s with pollIntervalMs := v },
    .of "reset_pin" TagSettings.resetPin fun s v => { s with resetPin := v },
    .of "spi_clock_hz" TagSettings.clockHz fun s v => { s with clockHz := v }]

/-- The form of payment reader settings. -/
def PaymentSettings.schema : Schema PaymentSettings where
  expected := "struct PaymentConfig"
  default := {}
  fields := [
    .of "i2c_address" PaymentSettings.address fun s v => { s with address := v },
    .of "frame_len" PaymentSettings.frameLength fun s v => { s with frameLength := v },
    .of "poll_interval_ms" PaymentSettings.pollIntervalMs fun s v =>
      { s with pollIntervalMs := v }]

instance : Wire ServoSettings := .ofSchema ServoSettings.schema

instance : Wire TagSettings := .ofSchema TagSettings.schema

instance : Wire PaymentSettings := .ofSchema PaymentSettings.schema

namespace Settings

/-- The form of all settings. -/
def schema : Schema Settings where
  expected := "struct MixerConfig"
  default := {}
  fields := [
    .of "pwm" Settings.servo fun s v => { s with servo := v },
    .of "reader" Settings.tag fun s v => { s with tag := v },
    .of "payment" Settings.payment fun s v => { s with payment := v }]

/-- The settings that a text holds, if they pass the range checks. -/
def ofText (text : String) : Except SettingsFault Settings :=
  match schema.ofText text with
  | .error _ => .error .corrupted
  | .ok settings => do
    settings.check
    pure settings

/-- The text that holds the settings. -/
def toText (settings : Settings) : String :=
  schema.toText settings

end Settings

/-- What is found where settings are looked for. -/
inductive SettingsSource
  | absent
  /-- What is there cannot be read as a text. -/
  | unreadable
  | text (text : String)
  deriving DecidableEq, Repr

namespace SettingsSource

/-- A file with the given bytes, which have to be UTF-8. -/
def ofBytes (bytes : ByteArray) : SettingsSource :=
  match String.fromUTF8? bytes with
  | some content => text content
  | none => unreadable

/-- The settings found in a place. -/
def load : SettingsSource → Except SettingsFault Settings
  | absent => .error .notFound
  | unreadable => .error .unreadable
  | text content => Settings.ofText content

/-- The settings found in the place that was named, or the defaults if none was. -/
def loadNamed : Option SettingsSource → Except SettingsFault Settings
  | some source => source.load
  | none => .ok {}

end SettingsSource

end DrinkMixer
