import RecordBridge.Custody.Attachment

namespace RecordBridge

namespace ByteOrder

-- Bytes behind their number. The number is that of the format, which is lower than the true one from
-- 2^32 on.
def counted (order : ByteOrder) (data : Bytes) : Bytes :=
  order.encode (UInt32.ofNat data.length) ++ data

theorem length_encode (order : ByteOrder) (n : UInt32) : (order.encode n).length = 4 := by
  cases order <;> rfl

theorem decode_encode (order : ByteOrder) (n : UInt32) : order.decode (order.encode n) = n := by
  have small : n.toNat < 4294967296 := n.toNat_lt
  have arranged : order.arrange (order.encode n) = [UInt8.ofNat (n.toNat / 16777216),
      UInt8.ofNat (n.toNat / 65536), UInt8.ofNat (n.toNat / 256), UInt8.ofNat n.toNat] := by
    cases order <;> rfl
  apply UInt32.toNat_inj.mp
  simp only [decode, arranged, List.foldl_cons, List.foldl_nil, UInt32.toNat_ofNat', UInt8.toNat_ofNat']
  omega

end ByteOrder

namespace Buffer

variable {α : Type}

theorem append_append (buffer : Buffer) (first second : Bytes) :
    (buffer.append first).append second = buffer.append (first ++ second) := by
  simp [append]

theorem append_nil (buffer : Buffer) : buffer.append [] = buffer := by
  simp [append]

@[simp]
theorem append_order (buffer : Buffer) (bytes : Bytes) : (buffer.append bytes).order = buffer.order := rfl

theorem bytes_append (buffer : Buffer) (bytes : Bytes) :
    (buffer.append bytes).bytes = buffer.bytes ++ bytes := by
  simp [append, Buffer.bytes]

theorem putU32_exact (buffer : Buffer) (n : UInt32) :
    buffer.putU32 n = buffer.append (buffer.order.encode n) := rfl

theorem putBytes_exact (buffer : Buffer) (data : Bytes) :
    buffer.putBytes data = buffer.append (buffer.order.counted data) := by
  simp [putBytes, putU32_exact, append_append, ByteOrder.counted]

theorem putString_exact (buffer : Buffer) (text : String) :
    buffer.putString text = buffer.append (buffer.order.counted (Utf8.encode text)) :=
  buffer.putBytes_exact (Utf8.encode text)

-- Steps that append append their bytes one after the other.
theorem foldl_append {step : Buffer → α → Buffer} {wire : ByteOrder → α → Bytes}
    (each : ∀ buffer item, step buffer item = buffer.append (wire buffer.order item))
    (items : List α) (buffer : Buffer) :
    items.foldl step buffer = buffer.append (items.flatMap (wire buffer.order)) := by
  induction items generalizing buffer with
  | nil => exact buffer.append_nil.symm
  | cons item rest ih => simp [each, ih, append_append]

end Buffer

variable {κ : Type}

def Value.wire (order : ByteOrder) (value : Value) : Bytes :=
  order.encode value.tag ++ order.counted value.bytes

namespace Record

def attributeWire (order : ByteOrder) (entry : String × Value) : Bytes :=
  order.counted (Utf8.encode entry.1) ++ entry.2.wire order

def attributesWire (order : ByteOrder) (attributes : List (String × Value)) : Bytes :=
  order.encode (UInt32.ofNat attributes.length) ++ attributes.flatMap (attributeWire order)

theorem writeAttribute_exact (buffer : Buffer) (entry : String × Value) :
    writeAttribute buffer entry = buffer.append (attributeWire buffer.order entry) := by
  simp [writeAttribute, Value.write, attributeWire, Value.wire, Buffer.putString_exact,
    Buffer.putU32_exact, Buffer.putBytes_exact, Buffer.append_append]

theorem writeAttributes_exact (buffer : Buffer) (attributes : List (String × Value)) :
    writeAttributes buffer attributes = buffer.append (attributesWire buffer.order attributes) := by
  simp [writeAttributes, attributesWire, Buffer.foldl_append writeAttribute_exact,
    Buffer.putU32_exact, Buffer.append_append]

end Record

variable [Cargo κ]

-- A payload writes into a buffer of its own.
def Payload.wire (order : ByteOrder) (payload : Payload κ) : Bytes := (payload.write (.empty order)).bytes

namespace Container

def entryWire (order : ByteOrder) (entry : String × Payload κ) : Bytes :=
  order.counted (Utf8.encode entry.1) ++ order.counted (entry.2.wire order)

def wire (order : ByteOrder) (container : Container κ) : Bytes :=
  order.encode (UInt32.ofNat container.size) ++ container.entries.flatMap (entryWire order)

theorem writeEntry_exact (buffer : Buffer) (entry : String × Payload κ) :
    writeEntry buffer entry = buffer.append (entryWire buffer.order entry) := by
  simp [writeEntry, entryWire, Payload.wire, Buffer.putString_exact, Buffer.putBytes_exact,
    Buffer.append_append]

theorem write_exact (buffer : Buffer) (container : Container κ) :
    write buffer container = buffer.append (container.wire buffer.order) := by
  simp [write, wire, Buffer.foldl_append writeEntry_exact, Buffer.putU32_exact, Buffer.append_append]

end Container

namespace Record

def payloadsWire (order : ByteOrder) : Option (Container κ) → Bytes
  | none => order.encode 0
  | some container => order.encode 1 ++ container.wire order

def wire (order : ByteOrder) (record : Record κ) : Bytes :=
  attributesWire order record.attributes ++ payloadsWire order record.payloads

theorem writePayloads_exact (buffer : Buffer) (payloads : Option (Container κ)) :
    writePayloads buffer payloads = buffer.append (payloadsWire buffer.order payloads) := by
  cases payloads with
  | none => rfl
  | some container =>
    simp [writePayloads, payloadsWire, Container.write_exact, Buffer.putU32_exact, Buffer.append_append]

theorem write_exact (buffer : Buffer) (record : Record κ) :
    record.write buffer = buffer.append (record.wire buffer.order) := by
  simp [write, wire, writeAttributes_exact, writePayloads_exact, Buffer.append_append]

theorem serialize_exact (record : Record κ) (order : ByteOrder) :
    record.serialize order = record.wire order := by
  rw [serialize, write_exact, Buffer.bytes_append]
  rfl

end Record
end RecordBridge
