import Lapdev.RustStd.AsyncRead
import Lapdev.RustStd.Bytes
import Lapdev.RustStd.Net

/-!
# The STUN codec

`parse_stun_response` of `tunnel/src/direct/stun.rs`, and the packets that
`build_response_probe_payload` of `probe.rs` writes for it. The attributes of a response are walked
over up to the end that the header gives, but an attribute is checked against the end of the datagram
(`parseAttributes_eq`), so that `readsMessage_iff` has a condition.
-/

namespace Lapdev

open RustStd Bytes

/-- `[u8; 12]`. -/
structure TransactionId where
  bytes : List UInt8
  size : bytes.length = 12
  deriving DecidableEq

namespace Stun

/-- `STUN_MAGIC_COOKIE.to_be_bytes()`. -/
def magicCookie : List UInt8 := toBe 4 0x2112A442

/-- `(STUN_MAGIC_COOKIE >> 16) as u16`. -/
def portMask : UInt16 := 0x2112

/-- `STUN_HEADER_SIZE`. -/
def headerSize : Nat := 20

/-- `STUN_BINDING_SUCCESS`. -/
def bindingSuccess : UInt16 := 0x0101

/-- `STUN_ATTR_MAPPED_ADDRESS`. -/
def attrMappedAddress : UInt16 := 0x0001

/-- `STUN_ATTR_XOR_MAPPED_ADDRESS`. -/
def attrXorMappedAddress : UInt16 := 0x0020

/-! ## Parsing -/

/-- The addresses are the octets of one of the two versions. -/
def ipv4OfOctets (octets : List UInt8) : Indexed Ipv4Addr := do
  let a ← octets[0]?
  let b ← octets[1]?
  let c ← octets[2]?
  let d ← octets[3]?
  pure ⟨a, b, c, d⟩

/-- `Ipv6Addr::from`. -/
def ipv6OfOctets (octets : List UInt8) : BitVec 128 := BitVec.ofNat 128 (fromBe octets)

/-- The port and the octets of an attribute's value, with what the kind of the attribute does to
them. -/
def readAddress (unmaskPort : UInt16 → UInt16) (unmask4 unmask16 : List UInt8 → List UInt8)
    (value : List UInt8) : Indexed (Option SocketAddr) :=
  if value.length < 4 then pure none
  else do
    let family ← value[1]?
    let port ← readU16 value 2
    if family = 0x01 then
      if value.length < 8 then pure none
      else do
        let octets ← slice value 4 8
        let addr ← ipv4OfOctets (unmask4 octets)
        pure (some (.new (.v4 addr) (unmaskPort port)))
    else if family = 0x02 then
      if value.length < 20 then pure none
      else do
        let octets ← slice value 4 20
        pure (some (.new (.v6 (ipv6OfOctets (unmask16 octets))) (unmaskPort port)))
    else pure none

/-- Source: `stun.rs`. -/
def parseMappedAddress (value : List UInt8) : Indexed (Option SocketAddr) :=
  readAddress id id id value

/-- Source: `stun.rs`. -/
def parseXorMappedAddress (value : List UInt8) (transactionId : TransactionId) :
    Indexed (Option SocketAddr) :=
  readAddress (· ^^^ portMask) (xor · magicCookie) (xor · (magicCookie ++ transactionId.bytes)) value

/-- The address of an attribute of one of the two kinds. -/
def parseAttribute (transactionId : TransactionId) (attrType : UInt16) (value : List UInt8) :
    Indexed (Option SocketAddr) :=
  if attrType = attrXorMappedAddress then parseXorMappedAddress value transactionId
  else if attrType = attrMappedAddress then parseMappedAddress value
  else pure none

/-- The bytes up to the next multiple of four. -/
def padding (attrLen : Nat) : Nat := (4 - attrLen % 4) % 4

/-- `io::Error::new(InvalidData, ..)`. -/
abbrev ParseResult := Except (ErrorKind × String) (Option SocketAddr)

/-- What the loop of `parse_stun_response` fails with. -/
def attributeExceeds : ErrorKind × String := (.invalidData, "STUN attribute exceeds message length")

/-- The loop of `parse_stun_response`. -/
def parseAttributes (data : List UInt8) (transactionId : TransactionId) (stop offset : Nat) :
    Indexed ParseResult :=
  if offset + 4 ≤ stop then do
    let attrType ← readU16 data offset
    let attrLen ← readU16 data (offset + 2)
    let valueStart := offset + 4
    let valueEnd := valueStart + attrLen.toNat
    if data.length < valueEnd then pure (.error attributeExceeds)
    else do
      let value ← slice data valueStart valueEnd
      let addr ← parseAttribute transactionId attrType value
      if addr.isSome then pure (.ok addr)
      else parseAttributes data transactionId stop (valueEnd + padding attrLen.toNat)
  else pure (.ok none)
termination_by stop - offset

/-- Source: `stun.rs`. -/
def parseStunResponse (data : List UInt8) (transactionId : TransactionId) : Indexed ParseResult :=
  if data.length < headerSize then pure (.error (.invalidData, "STUN response too short"))
  else do
    let messageType ← readU16 data 0
    if messageType ≠ bindingSuccess then
      pure (.error (.invalidData, "unexpected STUN response type"))
    else do
      let messageLen ← readU16 data 2
      if data.length < headerSize + messageLen.toNat then
        pure (.error (.invalidData, "STUN response truncated"))
      else do
        let cookie ← slice data 4 8
        if cookie ≠ magicCookie then pure (.error (.invalidData, "invalid STUN magic cookie"))
        else do
          let transaction ← slice data 8 20
          if transaction ≠ transactionId.bytes then
            pure (.error (.invalidData, "mismatched STUN transaction id"))
          else parseAttributes data transactionId (headerSize + messageLen.toNat) headerSize

/-! ## Writing -/

/-- An attribute with an address: its family, its port and the octets of its IP. -/
def xorAttribute (family : UInt8) (port : UInt16) (rawIpBytes : List UInt8) : List UInt8 :=
  let valueLen := 4 + rawIpBytes.length
  toBe 2 attrXorMappedAddress.toNat ++ (toBe 2 (UInt16.ofNat valueLen).toNat ++
    ([0, family] ++ (toBe 2 port.toNat ++ rawIpBytes)))

/-- Source: `probe.rs`. -/
def encodeXorMappedAddress (addr : SocketAddr) (transactionId : TransactionId) : List UInt8 :=
  let port := addr.port ^^^ portMask
  match addr.ip with
  | .v4 ip => xorAttribute 0x01 port (xor [ip.a, ip.b, ip.c, ip.d] magicCookie)
  | .v6 segments =>
    xorAttribute 0x02 port (xor (toBe 16 segments.toNat) (magicCookie ++ transactionId.bytes))

/-- Source: `probe.rs`; the transaction is the one that it draws. -/
def buildResponseProbePayload (target : SocketAddr) (transactionId : TransactionId) :
    List UInt8 :=
  let attr := encodeXorMappedAddress target transactionId
  toBe 2 bindingSuccess.toNat ++ (toBe 2 (UInt16.ofNat attr.length).toNat ++
    (magicCookie ++ (transactionId.bytes ++ attr)))

/-! ## Reads inside of the datagram -/

/-- Four octets are an address. -/
theorem exists_ipv4OfOctets {octets : List UInt8} (h : 4 ≤ octets.length) :
    ∃ addr, ipv4OfOctets octets = some addr := by
  obtain ⟨a, b, c, d, rest, rfl⟩ : ∃ a b c d rest, octets = a :: b :: c :: d :: rest := by
    match octets, h with
    | a :: b :: c :: d :: rest, _ => exact ⟨a, b, c, d, rest, rfl⟩
  exact ⟨⟨a, b, c, d⟩, rfl⟩

/-- The length of a slice. -/
theorem exists_slice (bytes : List UInt8) (start stop : Nat) (hstart : start ≤ stop)
    (hstop : stop ≤ bytes.length) :
    ∃ part, slice bytes start stop = some part ∧ part.length = stop - start := by
  refine ⟨_, slice_eq hstart hstop, ?_⟩
  rw [List.length_take, List.length_drop]
  omega

/-- An address is read, or the value is rejected, but nothing panics. -/
theorem exists_readAddress {unmask4 : List UInt8 → List UInt8}
    (hunmask : ∀ octets, 4 ≤ octets.length → 4 ≤ (unmask4 octets).length)
    (unmaskPort : UInt16 → UInt16) (unmask16 : List UInt8 → List UInt8) (value : List UInt8) :
    ∃ addr, readAddress unmaskPort unmask4 unmask16 value = some addr := by
  unfold readAddress
  split
  · exact ⟨none, rfl⟩
  · next hfour =>
    have hfamily : value[1]? = some value[1] := List.getElem?_eq_getElem (by omega)
    obtain ⟨port, hport⟩ := exists_readU16 value 2 (by omega)
    rw [hfamily, hport]
    simp only [Option.bind_eq_bind, Option.bind_some]
    split
    · split
      · exact ⟨none, rfl⟩
      · obtain ⟨octets, hoctets, hlength⟩ := exists_slice value 4 8 (by omega) (by omega)
        obtain ⟨addr, haddr⟩ := exists_ipv4OfOctets (hunmask octets (by omega))
        rw [hoctets, Option.bind_some, haddr]
        exact ⟨_, rfl⟩
    · split
      · split
        · exact ⟨none, rfl⟩
        · obtain ⟨bytes, hbytes, -⟩ := exists_slice value 4 20 (by omega) (by omega)
          rw [hbytes]
          exact ⟨_, rfl⟩
      · exact ⟨none, rfl⟩

/-- No attribute panics. -/
theorem exists_parseAttribute (transactionId : TransactionId) (attrType : UInt16)
    (value : List UInt8) : ∃ addr, parseAttribute transactionId attrType value = some addr := by
  unfold parseAttribute
  split
  · refine exists_readAddress (fun octets hoctets => ?_) _ _ value
    have hmask : magicCookie.length = 4 := rfl
    rw [Bytes.xor, List.length_zipWith]
    omega
  · split
    · exact exists_readAddress (fun _ h => h) _ _ value
    · exact ⟨none, rfl⟩

/-! ## The attributes of a message -/

variable (data : List UInt8) (transactionId : TransactionId)

/-- Where the value of the attribute at an offset ends. -/
def valueEnd (offset : Nat) : Nat :=
  offset + 4 + (((readU16 data (offset + 2)).map UInt16.toNat).getD 0)

/-- Where the next attribute starts. -/
def nextOffset (offset : Nat) : Nat :=
  valueEnd data offset + padding (valueEnd data offset - (offset + 4))

/-- The address of the attribute at an offset. -/
def addressAt (offset : Nat) : Option SocketAddr :=
  ((readU16 data offset).bind fun attrType =>
    (slice data (offset + 4) (valueEnd data offset)).bind
      (parseAttribute transactionId attrType)).join

/-- **One round of the loop.** -/
theorem parseAttributes_eq {stop offset : Nat} (hstop : stop ≤ data.length)
    (hoffset : offset + 4 ≤ stop) :
    parseAttributes data transactionId stop offset =
      if data.length < valueEnd data offset then some (.error attributeExceeds)
      else if (addressAt data transactionId offset).isSome then
        some (.ok (addressAt data transactionId offset))
      else parseAttributes data transactionId stop (nextOffset data offset) := by
  obtain ⟨attrType, htype⟩ := exists_readU16 data offset (by omega)
  obtain ⟨attrLen, hlen⟩ := exists_readU16 data (offset + 2) (by omega)
  have hend : valueEnd data offset = offset + 4 + attrLen.toNat := by
    rw [valueEnd, hlen]
    rfl
  rw [parseAttributes, if_pos hoffset, htype, hlen]
  simp only [Option.bind_eq_bind, Option.bind_some, ← hend]
  split
  · rfl
  · next hinside =>
    obtain ⟨value, hvalue, -⟩ := exists_slice data (offset + 4)
      (valueEnd data offset) (by omega) (by omega)
    obtain ⟨addr, haddr⟩ := exists_parseAttribute transactionId attrType value
    have haddressAt : addressAt data transactionId offset = addr := by
      rw [addressAt, htype, Option.bind_some, hvalue, Option.bind_some, haddr]
      rfl
    have hnext : nextOffset data offset = valueEnd data offset + padding attrLen.toNat := by
      rw [nextOffset, hend, Nat.add_sub_cancel_left]
    rw [hvalue, Option.bind_some, haddr, Option.bind_some, haddressAt, hnext]
    rfl

/-- The next attribute starts behind the header of this one. -/
theorem add_four_le_nextOffset (offset : Nat) : offset + 4 ≤ nextOffset data offset := by
  rw [nextOffset, valueEnd]
  omega

/-- The loop does not read outside of the datagram. -/
theorem exists_parseAttributes {stop : Nat} (hstop : stop ≤ data.length) (offset : Nat) :
    ∃ result, parseAttributes data transactionId stop offset = some result := by
  induction hfuel : stop - offset using Nat.strong_induction_on generalizing offset with
  | _ fuel ih =>
    by_cases hoffset : offset + 4 ≤ stop
    · rw [parseAttributes_eq data transactionId hstop hoffset]
      split
      · exact ⟨_, rfl⟩
      · split
        · exact ⟨_, rfl⟩
        · have hnext := add_four_le_nextOffset data offset
          exact ih _ (by omega) (nextOffset data offset) rfl
    · rw [parseAttributes, if_neg hoffset]
      exact ⟨_, rfl⟩

/-! ## The message -/

/-- The end that the header gives. -/
def messageEnd : Nat := headerSize + (((readU16 data 2).map UInt16.toNat).getD 0)

/-- The header is that of a response to a transaction, and the message is there. -/
structure ValidHeader : Prop where
  header : headerSize ≤ data.length
  type : readU16 data 0 = some bindingSuccess
  message : messageEnd data ≤ data.length
  cookie : slice data 4 8 = some magicCookie
  transaction : slice data 8 20 = some transactionId.bytes

/-- The loop gets to the attribute at an offset: those before it lie within the message and have no
address. -/
inductive Reaches : Nat → Prop
  | first : Reaches headerSize
  | next {offset : Nat} (hreach : Reaches offset) (hoffset : offset + 4 ≤ messageEnd data)
      (hinside : valueEnd data offset ≤ messageEnd data)
      (hnone : addressAt data transactionId offset = none) : Reaches (nextOffset data offset)

/-- The attribute at an offset runs past the end of the message. -/
def Overruns (offset : Nat) : Prop :=
  offset + 4 ≤ messageEnd data ∧ messageEnd data < valueEnd data offset

/-- An attribute that runs past the end of the message runs past the end of the datagram. -/
def Confined : Prop :=
  ValidHeader data transactionId → ∀ offset, Reaches data transactionId offset →
    Overruns data offset → data.length < valueEnd data offset

/-- The parser reads the message and nothing else. -/
structure ReadsMessage : Prop where
  total : ∃ result, parseStunResponse data transactionId = some result
  message : parseStunResponse data transactionId =
    parseStunResponse (data.take (messageEnd data)) transactionId
  overrun : ValidHeader data transactionId → ∀ offset, Reaches data transactionId offset →
    Overruns data offset → ∃ e, parseStunResponse data transactionId = some (.error e)

/-- The checks of the header. -/
theorem parseStunResponse_eq :
    parseStunResponse data transactionId =
      if data.length < headerSize then some (.error (.invalidData, "STUN response too short"))
      else if readU16 data 0 ≠ some bindingSuccess then
        some (.error (.invalidData, "unexpected STUN response type"))
      else if data.length < messageEnd data then
        some (.error (.invalidData, "STUN response truncated"))
      else if slice data 4 8 ≠ some magicCookie then
        some (.error (.invalidData, "invalid STUN magic cookie"))
      else if slice data 8 20 ≠ some transactionId.bytes then
        some (.error (.invalidData, "mismatched STUN transaction id"))
      else parseAttributes data transactionId (messageEnd data) headerSize := by
  unfold parseStunResponse
  split
  · rfl
  · next hheader =>
    have hsize : headerSize = 20 := rfl
    obtain ⟨messageType, htype⟩ := exists_readU16 data 0 (by omega)
    obtain ⟨messageLen, hlen⟩ := exists_readU16 data 2 (by omega)
    obtain ⟨cookie, hcookie, -⟩ := exists_slice data 4 8 (by omega) (by omega)
    obtain ⟨transaction, htransaction, -⟩ := exists_slice data 8 20 (by omega) (by omega)
    have hend : messageEnd data = headerSize + messageLen.toNat := by
      rw [messageEnd, hlen]
      rfl
    rw [htype, hlen, hcookie, htransaction]
    simp only [Option.bind_eq_bind, Option.bind_some, hend, ne_eq, Option.some.injEq]
    rfl

variable {data transactionId}

/-- Behind a valid header the attributes are read. -/
theorem ValidHeader.parse (h : ValidHeader data transactionId) :
    parseStunResponse data transactionId =
      parseAttributes data transactionId (messageEnd data) headerSize := by
  rw [parseStunResponse_eq, if_neg (Nat.not_lt.2 h.header), if_neg (not_not.2 h.type),
    if_neg (Nat.not_lt.2 h.message), if_neg (not_not.2 h.cookie), if_neg (not_not.2 h.transaction)]

/-- Without one the message is rejected. -/
theorem parse_of_not_validHeader (h : ¬ValidHeader data transactionId) :
    ∃ e, parseStunResponse data transactionId = some (.error e) := by
  rw [parseStunResponse_eq]
  split
  · exact ⟨_, rfl⟩
  · next hheader =>
    split
    · exact ⟨_, rfl⟩
    · next htype =>
      split
      · exact ⟨_, rfl⟩
      · next hmessage =>
        split
        · exact ⟨_, rfl⟩
        · next hcookie =>
          split
          · exact ⟨_, rfl⟩
          · next htransaction =>
            exact absurd ⟨Nat.not_lt.1 hheader, not_not.1 htype, Nat.not_lt.1 hmessage,
              not_not.1 hcookie, not_not.1 htransaction⟩ h

/-- The parser does not read outside of the datagram. -/
theorem exists_parseStunResponse (data : List UInt8) (transactionId : TransactionId) :
    ∃ result, parseStunResponse data transactionId = some result := by
  by_cases h : ValidHeader data transactionId
  · rw [h.parse]
    exact exists_parseAttributes data transactionId h.message headerSize
  · obtain ⟨e, he⟩ := parse_of_not_validHeader h
    exact ⟨_, he⟩

/-! ## The end of the message -/

/-- A message ends behind its header. -/
theorem headerSize_le_messageEnd : headerSize ≤ messageEnd data := Nat.le_add_right _ _

/-- Where a message ends is said in its header. -/
theorem messageEnd_take : messageEnd (data.take (messageEnd data)) = messageEnd data := by
  have hend : headerSize ≤ messageEnd data := headerSize_le_messageEnd
  have hsize : headerSize = 20 := rfl
  rw [messageEnd, readU16_take (by omega)]
  rfl

/-- The message alone has the header. -/
theorem ValidHeader.take (h : ValidHeader data transactionId) :
    ValidHeader (data.take (messageEnd data)) transactionId := by
  have hend : headerSize ≤ messageEnd data := headerSize_le_messageEnd
  have hsize : headerSize = 20 := rfl
  have hlength : (data.take (messageEnd data)).length = messageEnd data :=
    List.length_take_of_le h.message
  refine ⟨by omega, ?_, ?_, ?_, ?_⟩
  · rw [readU16_take (by omega), h.type]
  · rw [messageEnd_take, hlength]
  · rw [slice_take (by omega) (by omega) h.message, h.cookie]
  · rw [slice_take (by omega) (by omega) h.message, h.transaction]

/-- A bad header is a bad header of the message alone. -/
theorem parse_take_of_not_validHeader (h : ¬ValidHeader data transactionId) :
    parseStunResponse (data.take (messageEnd data)) transactionId =
      parseStunResponse data transactionId := by
  rcases Nat.lt_or_ge (messageEnd data) data.length with hlt | hle
  · have hend : headerSize ≤ messageEnd data := headerSize_le_messageEnd
    have hsize : headerSize = 20 := rfl
    have hlength : (data.take (messageEnd data)).length = messageEnd data :=
      List.length_take_of_le hlt.le
    rw [parseStunResponse_eq, parseStunResponse_eq data, messageEnd_take, hlength,
      readU16_take (by omega), slice_take (by omega) (by omega) hlt.le,
      slice_take (by omega) (by omega) hlt.le, if_neg (Nat.not_lt.2 hend),
      if_neg (Nat.not_lt.2 (hend.trans hlt.le)), if_neg (Nat.lt_irrefl _), if_neg hlt.not_gt]
    split
    · rfl
    · next htype =>
      split
      · rfl
      · next hcookie =>
        split
        · rfl
        · next htransaction =>
          exact absurd ⟨hend.trans hlt.le, not_not.1 htype, hlt.le, not_not.1 hcookie,
            not_not.1 htransaction⟩ h
  · rw [List.take_of_length_le hle]

/-- The loop gets where it gets to. -/
theorem Reaches.parse (h : ValidHeader data transactionId) {offset : Nat}
    (hreach : Reaches data transactionId offset) :
    parseStunResponse data transactionId =
      parseAttributes data transactionId (messageEnd data) offset := by
  induction hreach with
  | first => exact h.parse
  | next hreach hoffset hinside hnone ih =>
    have hmessage := h.message
    rw [ih, parseAttributes_eq data transactionId hmessage hoffset, if_neg (by omega), hnone,
      Option.isSome_none, if_neg Bool.false_ne_true]

/-- Within the message, the loop does the same in the message alone. -/
theorem Confined.parseAttributes_take (hconfined : Confined data transactionId)
    (h : ValidHeader data transactionId) {offset : Nat} (hreach : Reaches data transactionId offset) :
    parseAttributes data transactionId (messageEnd data) offset =
      parseAttributes (data.take (messageEnd data)) transactionId (messageEnd data) offset := by
  have hmessage := h.message
  have hlength : (data.take (messageEnd data)).length = messageEnd data :=
    List.length_take_of_le hmessage
  induction hfuel : messageEnd data - offset using Nat.strong_induction_on generalizing offset with
  | _ fuel ih =>
    by_cases hoffset : offset + 4 ≤ messageEnd data
    · have hend : valueEnd (data.take (messageEnd data)) offset = valueEnd data offset := by
        rw [valueEnd, valueEnd, readU16_take (by omega)]
      rw [parseAttributes_eq data transactionId hmessage hoffset,
        parseAttributes_eq _ transactionId hlength.ge hoffset, hend, hlength]
      rcases Nat.lt_or_ge (messageEnd data) (valueEnd data offset) with hover | hinside
      · rw [if_pos (hconfined h offset hreach ⟨hoffset, hover⟩), if_pos hover]
      · have haddress : addressAt (data.take (messageEnd data)) transactionId offset =
            addressAt data transactionId offset := by
          rw [addressAt, addressAt, hend, readU16_take (by omega),
            slice_take (by rw [valueEnd]; omega) hinside hmessage]
        have hnextOffset : nextOffset (data.take (messageEnd data)) offset =
            nextOffset data offset := by
          rw [nextOffset, nextOffset, hend]
        rw [if_neg (Nat.not_lt.2 (hinside.trans hmessage)), if_neg (Nat.not_lt.2 hinside), haddress,
          hnextOffset]
        split
        · rfl
        · next hnone =>
          have hnext := add_four_le_nextOffset data offset
          rw [Bool.not_eq_true, Option.isSome_eq_false_iff, Option.isNone_iff_eq_none] at hnone
          exact ih _ (by omega) (hreach.next hoffset hinside hnone) rfl
    · rw [parseAttributes, parseAttributes, if_neg hoffset, if_neg hoffset]

/-- An attribute that runs past the message but not past the datagram is taken as it is. -/
theorem Reaches.parse_eq_ok (h : ValidHeader data transactionId) {offset : Nat}
    (hreach : Reaches data transactionId offset) (hover : Overruns data offset)
    (hinside : valueEnd data offset ≤ data.length) :
    ∃ addr, parseStunResponse data transactionId = some (.ok addr) := by
  rw [hreach.parse h, parseAttributes_eq data transactionId h.message hover.1,
    if_neg (Nat.not_lt.2 hinside)]
  split
  · exact ⟨_, rfl⟩
  · have hnext : ¬nextOffset data offset + 4 ≤ messageEnd data := by
      have hlt := hover.2
      rw [nextOffset]
      omega
    rw [parseAttributes, if_neg hnext]
    exact ⟨none, rfl⟩

/-- The parser reads the message and nothing else exactly if no attribute of it ends between the end
of the message and the end of the datagram. -/
theorem readsMessage_iff : ReadsMessage data transactionId ↔ Confined data transactionId := by
  constructor
  · intro hreads h offset hreach hover
    rcases Nat.lt_or_ge data.length (valueEnd data offset) with hlt | hinside
    · exact hlt
    · obtain ⟨addr, haddr⟩ := hreach.parse_eq_ok h hover hinside
      obtain ⟨e, he⟩ := hreads.overrun h offset hreach hover
      rw [haddr] at he
      cases he
  · intro hconfined
    refine ⟨exists_parseStunResponse data transactionId, ?_, fun h offset hreach hover => ?_⟩
    · by_cases h : ValidHeader data transactionId
      · rw [h.parse, h.take.parse, messageEnd_take, hconfined.parseAttributes_take h .first]
      · exact (parse_take_of_not_validHeader h).symm
    · rw [hreach.parse h, parseAttributes_eq data transactionId h.message hover.1,
        if_pos (hconfined h offset hreach hover)]
      exact ⟨_, rfl⟩

/-! ## Reading back -/

/-- An attribute is its kind, its length and its value. -/
def attributeBytes (attrType : UInt16) (value : List UInt8) : List UInt8 :=
  toBe 2 attrType.toNat ++ (toBe 2 (UInt16.ofNat value.length).toNat ++ value)

/-- A message of one attribute. -/
def message (transactionId : TransactionId) (attr : List UInt8) : List UInt8 :=
  toBe 2 bindingSuccess.toNat ++ (toBe 2 (UInt16.ofNat attr.length).toNat ++
    (magicCookie ++ (transactionId.bytes ++ attr)))

/-- An attribute is as long as its header and its value. -/
theorem length_attributeBytes (attrType : UInt16) (value : List UInt8) :
    (attributeBytes attrType value).length = 4 + value.length := by
  simp only [attributeBytes, List.length_append, length_toBe]
  omega

/-- A message is followed by any bytes. -/
theorem message_append (attr trailing : List UInt8) :
    message transactionId attr ++ trailing =
      toBe 2 bindingSuccess.toNat ++ (toBe 2 (UInt16.ofNat attr.length).toNat ++
        (magicCookie ++ (transactionId.bytes ++ (attr ++ trailing)))) := by
  simp only [message, List.append_assoc]

/-- A number of 16 bits. -/
theorem toNat_ofNat_of_lt {n : Nat} (h : n < 65536) : (UInt16.ofNat n).toNat = n := by
  rw [UInt16.toNat_ofNat']
  exact Nat.mod_eq_of_lt h

/-- The header that is written is valid. -/
theorem validHeader_message (transactionId : TransactionId) {attr : List UInt8} (hattr : attr.length < 65536)
    (trailing : List UInt8) :
    ValidHeader (message transactionId attr ++ trailing) transactionId ∧
      messageEnd (message transactionId attr ++ trailing) = headerSize + attr.length := by
  have hsize : headerSize = 20 := rfl
  have hcookie : magicCookie.length = 4 := rfl
  have htransaction := transactionId.size
  have hlength : (message transactionId attr ++ trailing).length =
      headerSize + attr.length + trailing.length := by
    simp only [message, List.length_append, length_toBe]
    omega
  have hlen : readU16 (message transactionId attr ++ trailing) 2 =
      some (UInt16.ofNat attr.length) := by
    rw [message_append]
    exact readU16_append (length_toBe 2 _) _
  have hend : messageEnd (message transactionId attr ++ trailing) = headerSize + attr.length := by
    rw [messageEnd, hlen, Option.map_some, Option.getD_some, toNat_ofNat_of_lt hattr]
  refine ⟨⟨by omega, ?_, by omega, ?_, ?_⟩, hend⟩
  · rw [message_append]
    exact readU16_append (rfl : ([] : List UInt8).length = 0) _
  · rw [message_append, ← List.append_assoc]
    refine slice_append ?_ ?_
    · rw [List.length_append, length_toBe, length_toBe]
    · rw [List.length_append, length_toBe, length_toBe, hcookie]
  · rw [message_append, ← List.append_assoc, ← List.append_assoc]
    refine slice_append ?_ ?_
    · rw [List.length_append, List.length_append, length_toBe, length_toBe, hcookie]
    · rw [List.length_append, List.length_append, length_toBe, length_toBe, hcookie, htransaction]

/-- A message of one attribute with an address is read as that address. -/
theorem parse_message {value : List UInt8} {addr : SocketAddr} (hvalue : value.length + 4 < 65536)
    (haddr : parseXorMappedAddress value transactionId = some (some addr))
    (trailing : List UInt8) :
    parseStunResponse
        (message transactionId (attributeBytes attrXorMappedAddress value) ++ trailing)
        transactionId = some (.ok (some addr)) := by
  have hattr : (attributeBytes attrXorMappedAddress value).length < 65536 := by
    rw [length_attributeBytes]
    omega
  obtain ⟨hvalid, hend⟩ := validHeader_message transactionId hattr trailing
  rw [length_attributeBytes] at hend
  generalize hdata : message transactionId (attributeBytes attrXorMappedAddress value) ++ trailing =
    data at hvalid hend ⊢
  -- The header is everything in front of the attribute.
  obtain ⟨header, hheader, hsplit⟩ : ∃ header : List UInt8, header.length = 20 ∧
      data = header ++ (toBe 2 attrXorMappedAddress.toNat ++
        (toBe 2 (UInt16.ofNat value.length).toNat ++ (value ++ trailing))) := by
    refine ⟨toBe 2 bindingSuccess.toNat ++ (toBe 2 (UInt16.ofNat
      (attributeBytes attrXorMappedAddress value).length).toNat ++
        (magicCookie ++ transactionId.bytes)), ?_, ?_⟩
    · have hcookie : magicCookie.length = 4 := rfl
      simp only [List.length_append, length_toBe, hcookie, transactionId.size]
    · rw [← hdata]
      simp only [message, attributeBytes, List.append_assoc]
  have htype : readU16 data headerSize = some attrXorMappedAddress := by
    rw [hsplit]
    exact readU16_append hheader _
  have hlen : readU16 data (headerSize + 2) = some (UInt16.ofNat value.length) := by
    rw [hsplit, ← List.append_assoc]
    exact readU16_append (by rw [List.length_append, hheader, length_toBe]; rfl) _
  have hvalueEnd : valueEnd data headerSize = headerSize + 4 + value.length := by
    rw [valueEnd, hlen, Option.map_some, Option.getD_some, toNat_ofNat_of_lt (by omega)]
  have hslice : slice data (headerSize + 4) (valueEnd data headerSize) = some value := by
    rw [hsplit, ← List.append_assoc, ← List.append_assoc] at hvalueEnd ⊢
    rw [hvalueEnd]
    refine slice_append ?_ ?_
    · rw [List.length_append, List.length_append, hheader, length_toBe, length_toBe]
      rfl
    · rw [List.length_append, List.length_append, hheader, length_toBe, length_toBe]
      rfl
  have haddress : addressAt data transactionId headerSize = some addr := by
    rw [addressAt, htype, Option.bind_some, hslice, Option.bind_some, parseAttribute, if_pos rfl,
      haddr]
    rfl
  have hmessage := hvalid.message
  rw [hvalid.parse, parseAttributes_eq data transactionId hmessage (by omega), if_neg (by omega),
    haddress]
  rfl

/-- The parts of an attribute's value. -/
theorem value_parts (family : UInt8) (port : UInt16) (raw : List UInt8) :
    ([0, family] ++ (toBe 2 port.toNat ++ raw))[1]? = some family ∧
      readU16 ([0, family] ++ (toBe 2 port.toNat ++ raw)) 2 = some port ∧
      slice ([0, family] ++ (toBe 2 port.toNat ++ raw)) 4 (4 + raw.length) = some raw := by
  refine ⟨rfl, readU16_append rfl port, ?_⟩
  rw [← List.append_assoc]
  have hslice : slice (([0, family] ++ toBe 2 port.toNat) ++ (raw ++ [])) 4 (4 + raw.length) =
      some raw := slice_append rfl rfl
  rwa [List.append_nil] at hslice

/-- The length of the value of an address. -/
theorem length_value (family : UInt8) (port : UInt16) (raw : List UInt8) :
    ([0, family] ++ (toBe 2 port.toNat ++ raw)).length = 4 + raw.length := by
  simp only [List.length_append, length_toBe, List.length_cons, List.length_nil]
  omega

/-- The mask of a port is its own inverse. -/
theorem port_unmasked (port : UInt16) : port ^^^ portMask ^^^ portMask = port := by
  rw [UInt16.xor_assoc, UInt16.xor_self, UInt16.xor_zero]

/-- The address is read off the value that is written for it. -/
theorem parseXorMappedAddress_v4 (ip : Ipv4Addr) (port : UInt16) (transactionId : TransactionId) :
    parseXorMappedAddress ([0, 0x01] ++ (toBe 2 (port ^^^ portMask).toNat ++
      xor [ip.a, ip.b, ip.c, ip.d] magicCookie)) transactionId =
        some (some (.new (.v4 ip) port)) := by
  have hmask : [ip.a, ip.b, ip.c, ip.d].length ≤ magicCookie.length := Nat.le_refl 4
  have hraw : (xor [ip.a, ip.b, ip.c, ip.d] magicCookie).length = 4 := length_xor hmask
  obtain ⟨hfamily, hport, hslice⟩ := value_parts 0x01 (port ^^^ portMask)
    (xor [ip.a, ip.b, ip.c, ip.d] magicCookie)
  have hlength := length_value 0x01 (port ^^^ portMask) (xor [ip.a, ip.b, ip.c, ip.d] magicCookie)
  rw [hraw] at hslice hlength
  rw [parseXorMappedAddress, readAddress, if_neg (by omega), hfamily, hport]
  simp only [Option.bind_eq_bind, Option.bind_some, if_true]
  rw [if_neg (by omega), hslice, Option.bind_some, xor_xor hmask, port_unmasked]
  rfl

/-- The octets of an address are read back. -/
theorem ipv6OfOctets_toBe (segments : BitVec 128) :
    ipv6OfOctets (toBe 16 segments.toNat) = segments := by
  have hlt : segments.toNat < 256 ^ 16 := segments.isLt
  rw [ipv6OfOctets, fromBe_toBe, Nat.mod_eq_of_lt hlt, BitVec.ofNat_toNat, BitVec.setWidth_eq]

/-- A masked address of 128 bits is read back. -/
theorem parseXorMappedAddress_v6 (segments : BitVec 128) (port : UInt16)
    (transactionId : TransactionId) :
    parseXorMappedAddress ([0, 0x02] ++ (toBe 2 (port ^^^ portMask).toNat ++
      xor (toBe 16 segments.toNat) (magicCookie ++ transactionId.bytes))) transactionId =
        some (some (.new (.v6 segments) port)) := by
  have hmask : (toBe 16 segments.toNat).length ≤ (magicCookie ++ transactionId.bytes).length := by
    rw [length_toBe, List.length_append, transactionId.size]
    exact Nat.le_refl 16
  have hraw := (length_xor hmask).trans (length_toBe 16 segments.toNat)
  obtain ⟨hfamily, hport, hslice⟩ := value_parts 0x02 (port ^^^ portMask)
    (xor (toBe 16 segments.toNat) (magicCookie ++ transactionId.bytes))
  have hlength := length_value 0x02 (port ^^^ portMask)
    (xor (toBe 16 segments.toNat) (magicCookie ++ transactionId.bytes))
  have hne : (0x02 : UInt8) ≠ 0x01 := by decide
  rw [hraw] at hslice hlength
  rw [parseXorMappedAddress, readAddress, if_neg (by omega), hfamily, hport]
  simp only [Option.bind_eq_bind, Option.bind_some, if_true, if_neg hne]
  rw [if_neg (by omega), hslice, Option.bind_some, xor_xor hmask, ipv6OfOctets_toBe, port_unmasked]
  rfl

/-- **Reading back.** A response that was built is read as the address it was built for, whatever
follows it. -/
theorem parse_buildResponseProbePayload (target : SocketAddr) (transactionId : TransactionId)
    (trailing : List UInt8) :
    parseStunResponse (buildResponseProbePayload target transactionId ++ trailing) transactionId =
      some (.ok (some (.new target.ip target.port))) := by
  have hattribute : ∀ family raw, xorAttribute family (target.port ^^^ portMask) raw =
      attributeBytes attrXorMappedAddress
        ([0, family] ++ (toBe 2 (target.port ^^^ portMask).toNat ++ raw)) := by
    intro family raw
    rw [attributeBytes, length_value, xorAttribute]
  have hpayload : buildResponseProbePayload target transactionId =
      message transactionId (encodeXorMappedAddress target transactionId) := rfl
  rw [hpayload, encodeXorMappedAddress]
  cases target.ip with
  | v4 ip =>
    have hraw : (xor [ip.a, ip.b, ip.c, ip.d] magicCookie).length ≤ 4 := by
      rw [Bytes.xor, List.length_zipWith]
      exact Nat.min_le_left _ _
    dsimp only
    rw [hattribute]
    exact parse_message (by rw [length_value]; omega) (parseXorMappedAddress_v4 ip _ _) trailing
  | v6 segments =>
    have hraw : (xor (toBe 16 segments.toNat) (magicCookie ++ transactionId.bytes)).length ≤ 16 := by
      rw [Bytes.xor, List.length_zipWith, length_toBe]
      exact Nat.min_le_left _ _
    dsimp only
    rw [hattribute]
    exact parse_message (by rw [length_value]; omega) (parseXorMappedAddress_v6 segments _ _) trailing

/-! ## The theorem -/

/-- The codec as it is meant, for one response. -/
structure CodecLaws (data : List UInt8) (transactionId : TransactionId) : Prop where
  readsMessage : ReadsMessage data transactionId
  readsBack : ∀ (target : SocketAddr) (trailing : List UInt8),
    parseStunResponse (buildResponseProbePayload target transactionId ++ trailing) transactionId =
      some (.ok (some (.new target.ip target.port)))

/-- The codec is as it is meant exactly if no attribute of a response ends between the end of the
message and the end of the datagram. -/
theorem codecLaws_iff (data : List UInt8) (transactionId : TransactionId) :
    CodecLaws data transactionId ↔ Confined data transactionId := by
  constructor
  · intro h
    exact readsMessage_iff.1 h.readsMessage
  · intro h
    exact ⟨readsMessage_iff.2 h,
      fun target trailing => parse_buildResponseProbePayload target transactionId trailing⟩

/-- A message whose only attribute says that it has 8 bytes, which are behind the message. -/
def overrunning : List UInt8 :=
  toBe 2 0x0101 ++ (toBe 2 4 ++ (magicCookie ++ (List.replicate 12 0 ++
    (toBe 2 0x0001 ++ (toBe 2 8 ++ [0, 1, 0, 80, 10, 0, 0, 1])))))

/-- The address behind the message is taken. -/
theorem not_codecLaws_overrunning : ¬CodecLaws overrunning ⟨List.replicate 12 0, rfl⟩ := by
  intro h
  have hvalid : ValidHeader overrunning ⟨List.replicate 12 0, rfl⟩ :=
    ⟨by decide, rfl, by decide, rfl, rfl⟩
  have hover : Overruns overrunning headerSize := ⟨by decide, by decide⟩
  obtain ⟨e, he⟩ := h.readsMessage.overrun hvalid headerSize .first hover
  obtain ⟨addr, haddr⟩ := Reaches.first.parse_eq_ok hvalid hover (by decide)
  rw [he] at haddr
  cases haddr

end Stun

end Lapdev
