import RadioFrontEnd.Config.Basic
import RadioFrontEnd.Yaml.Decoder
import RadioFrontEnd.Yaml.Printer

/-!
# Configurations as documents

The keys of a configuration document.  Each `Field` of a section says under which key it stands, how
it is read and how it is written, so one list per section serves both directions.  Reading starts
from the standard configuration and changes what is given; writing gives everything.
-/

namespace RadioFrontEnd.Config

open Yaml (Decoder Document DecodeError Tree)

/-- One key of a section. -/
structure Field (ρ : Type) where
  /-- The key. -/
  key : String
  /-- How a value under the key changes the section. -/
  decode : Decoder (ρ → ρ)
  /-- The value under the key. -/
  write : ρ → Tree

namespace Field

variable {ρ σ α : Type}

/-- A key for a component, given how values of it are read and written. -/
def of (key : String) (decode : Decoder α) (write : α → Tree) (get : ρ → α)
    (set : α → ρ → ρ) : Field ρ where
  key
  decode := fun d path node => (decode d path node).map set
  write := write ∘ get

/-- A key for a 32-bit word. -/
def word (key : String) (get : ρ → UInt32) (set : UInt32 → ρ → ρ) : Field ρ :=
  of key (Decoder.natural UInt32.size "u32") .natural (UInt32.toNat ∘ get) (set ∘ UInt32.ofNat)

/-- A key for a number of 16 bits. -/
def half (key : String) (get : ρ → UInt16) (set : UInt16 → ρ → ρ) : Field ρ :=
  of key (Decoder.natural UInt16.size "u16") .natural (UInt16.toNat ∘ get) (set ∘ UInt16.ofNat)

/-- A key for a number of 8 bits. -/
def byte (key : String) (get : ρ → UInt8) (set : UInt8 → ρ → ρ) : Field ρ :=
  of key (Decoder.natural UInt8.size "u8") .natural (UInt8.toNat ∘ get) (set ∘ UInt8.ofNat)

/-- A key for a truth value. -/
def flag (key : String) (get : ρ → Bool) (set : Bool → ρ → ρ) : Field ρ :=
  of key Decoder.boolean .boolean get set

/-- A key for a text. -/
def text (key expected : String) (get : ρ → String) (set : String → ρ → ρ) : Field ρ :=
  of key (Decoder.text expected) .text get set

/-- A key for a text that may be missing. -/
def text? (key expected : String) (get : ρ → Option String) (set : Option String → ρ → ρ) :
    Field ρ :=
  of key (Decoder.text expected).optional (fun s => (s.map Tree.text).getD .null) get set

/-- A key for one of some named values. -/
def oneOf (key : String) (all : List α) (name : α → String) (get : ρ → α) (set : α → ρ → ρ) :
    Field ρ :=
  of key (Decoder.oneOf (all.map fun x => (name x, x))) (.text ∘ name) get set

/-- How a list of fields reads a record. -/
def decodeAll (expected : String) (fields : List (Field ρ)) (start : ρ) : Decoder ρ :=
  .record expected (fields.map fun f => ⟨f.key, f.decode⟩) start

/-- How a list of fields writes a record. -/
def writeAll (fields : List (Field ρ)) (r : ρ) : List (String × Tree) :=
  fields.map fun f => (f.key, f.write r)

/-- A key for a section. -/
def nested (key expected : String) (fields : List (Field σ)) (start : σ) (get : ρ → σ)
    (set : σ → ρ → ρ) : Field ρ :=
  of key (decodeAll expected fields start) (.mapping ∘ writeAll fields) get set

end Field

/-- The keys for the device nodes. -/
def deviceFields : List (Field NodePaths) := [
  .text "user_device" "path string" (·.user) fun x p => { p with user := x },
  .text? "h2c_device" "path string" (·.toCard) fun x p => { p with toCard := x },
  .text? "c2h_device" "path string" (·.toHost) fun x p => { p with toHost := x }]

/-- The keys for the register map. -/
def registerFields : List (Field RegisterMap) := [
  .word "sw_version" (·.version) fun x m => { m with version := x },
  .word "fifo_monitor_base" (·.monitorBase) fun x m => { m with monitorBase := x },
  .word "fifo_config_offset" (·.configOffset) fun x m => { m with configOffset := x },
  .word "fifo_reset" (·.reset) fun x m => { m with reset := x },
  .word "reset_bit_rx_ddc" (·.rxResetBit) fun x m => { m with rxResetBit := x },
  .word "reset_bit_tx_duc" (·.txResetBit) fun x m => { m with txResetBit := x },
  .word "reset_bit_mic_codec" (·.micResetBit) fun x m => { m with micResetBit := x },
  .word "reset_bit_spk_codec" (·.spkResetBit) fun x m => { m with spkResetBit := x },
  .word "stream_axi_base" (·.streamBase) fun x m => { m with streamBase := x }]

/-- The keys for the accepted firmware. -/
def firmwareFields : List (Field FirmwareRange) := [
  .half "version_min" (·.versionMin) fun x r => { r with versionMin := x },
  .half "version_max" (·.versionMax) fun x r => { r with versionMax := x },
  .byte "major_min" (·.majorMin) fun x r => { r with majorMin := x },
  .byte "major_max" (·.majorMax) fun x r => { r with majorMax := x }]

/-- The keys for how events are shown. -/
def loggingFields : List (Field LogSettings) := [
  .oneOf "level" LogLevel.all LogLevel.name (·.level) fun x s => { s with level := x },
  .oneOf "format" LogFormat.all LogFormat.name (·.format) fun x s => { s with format := x },
  .flag "source_location" (·.sourceLocation) fun x s => { s with sourceLocation := x },
  .flag "thread_ids" (·.threadIds) fun x s => { s with threadIds := x },
  .flag "thread_names" (·.threadNames) fun x s => { s with threadNames := x },
  .text? "filter" "a string" (·.filter) fun x s => { s with filter := x }]

/-- The keys of a configuration. -/
def fields : List (Field Config) := [
  .nested "device" "struct DeviceConfig" deviceFields {} (·.device)
    fun x c => { c with device := x },
  .nested "registers" "struct RegisterMap" registerFields {} (·.registers)
    fun x c => { c with registers := x },
  .nested "firmware" "struct FirmwareSupport" firmwareFields {} (·.firmware)
    fun x c => { c with firmware := x },
  .flag "strict_firmware" (·.strictFirmware) fun x c => { c with strictFirmware := x },
  .nested "logging" "struct LogConfig" loggingFields {} (·.logging)
    fun x c => { c with logging := x }]

/-- The configuration that a document text describes. -/
def ofText (text : String) : Except DecodeError Config :=
  (Document.ofText text).decode (Field.decodeAll "struct SaturnConfig" fields {}) {}

/-- A configuration as a document text, with every key. -/
def toText (c : Config) : String := Tree.render (Field.writeAll fields c)

end RadioFrontEnd.Config
