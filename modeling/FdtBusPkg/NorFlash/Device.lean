import FdtBusPkg.Base
import FdtBusPkg.DtBus.Property
import FdtBusPkg.Library.Segment
import Mathlib.Logic.Function.Basic

/-!
The NOR flash driver over a fault-free chip. The chip's command protocol is
reduced to its effects: programming clears bits, erasing a block sets them all,
and both refuse a locked block; its status never reports an error otherwise.
-/
namespace FdtBusPkg

/-- The part of `NOR_FLASH_INSTANCE` the read and write paths use. -/
structure NorFlashInstance where
  regionBaseAddress : Uintn
  size : Uintn
  startLba : U64
  lastBlock : U64
  blockSize : U32
  deriving DecidableEq, Repr

/-- The chip: its bytes by address, and its lock bits by block number. -/
structure NorFlash where
  bytes : Nat → U8
  locked : Nat → Bool

def P30_MAX_BUFFER_SIZE_IN_BYTES : Uintn := 128
def P30_MAX_BUFFER_SIZE_IN_WORDS : Uintn := P30_MAX_BUFFER_SIZE_IN_BYTES / 4
def BOUNDARY_OF_32_WORDS : Uintn := 0x7F
def NOR_FLASH_ERASE_RETRY : Nat := 10

namespace NorFlash

def program (f : NorFlash) (a n : Nat) (src : Nat → U8) : NorFlash :=
  { f with bytes := Segment.overlay f.bytes a n (fun i => f.bytes (a + i) &&& src i) }

def erase (f : NorFlash) (a n : Nat) : NorFlash :=
  { f with bytes := Segment.overlay f.bytes a n (fun _ => BitVec.allOnes 8) }

def unlock (f : NorFlash) (block : Nat) : NorFlash :=
  { f with locked := Function.update f.locked block false }

@[simp] theorem bytes_program (f : NorFlash) (a n : Nat) (src : Nat → U8) :
    (f.program a n src).bytes =
      Segment.overlay f.bytes a n (fun i => f.bytes (a + i) &&& src i) := rfl
@[simp] theorem locked_program (f : NorFlash) (a n : Nat) (src : Nat → U8) :
    (f.program a n src).locked = f.locked := rfl
@[simp] theorem bytes_erase (f : NorFlash) (a n : Nat) :
    (f.erase a n).bytes = Segment.overlay f.bytes a n (fun _ => BitVec.allOnes 8) := rfl
@[simp] theorem locked_erase (f : NorFlash) (a n : Nat) : (f.erase a n).locked = f.locked := rfl
@[simp] theorem bytes_unlock (f : NorFlash) (block : Nat) :
    (f.unlock block).bytes = f.bytes := rfl
@[simp] theorem locked_unlock (f : NorFlash) (block : Nat) :
    (f.unlock block).locked = Function.update f.locked block false := rfl

end NorFlash

section Driver

variable (inst : NorFlashInstance)

/-- `GET_NOR_BLOCK_ADDRESS (Instance->RegionBaseAddress, Lba, BlockSize)`. -/
def norBlockAddress (lba : U64) : Uintn :=
  inst.regionBaseAddress + lba * inst.blockSize.setWidth 64

/-- Number of the block that holds an address. -/
def blockNumber (address : Uintn) : Nat := address.toNat / inst.blockSize.toNat

def norFlashUnlockSingleBlockIfNecessary (blockAddress : Uintn) (f : NorFlash) :
    EfiStatus × NorFlash :=
  if f.locked (blockNumber inst blockAddress) then
    (.ok (), f.unlock (blockNumber inst blockAddress))
  else
    (.ok (), f)

def norFlashEraseSingleBlock (blockAddress : Uintn) (f : NorFlash) : EfiStatus × NorFlash :=
  if f.locked (blockNumber inst blockAddress) then
    (.error .writeProtected, f)
  else
    (.ok (), f.erase blockAddress.toNat inst.blockSize.toNat)

def norFlashWriteSingleWord (wordAddress : Uintn) (writeData : Nat → U8) (f : NorFlash) :
    EfiStatus × NorFlash :=
  if f.locked (blockNumber inst wordAddress) then
    (.error .deviceError, f)
  else
    (.ok (), f.program wordAddress.toNat 4 writeData)

def norFlashWriteBuffer (targetAddress bufferSizeInBytes : Uintn) (buffer : Nat → U8)
    (f : NorFlash) : EfiStatus × NorFlash :=
  if targetAddress &&& BOUNDARY_OF_32_WORDS ≠ 0 then
    (.error .invalidParameter, f)
  else if bufferSizeInBytes = 0 then
    (.error .bufferTooSmall, f)
  else if bufferSizeInBytes > P30_MAX_BUFFER_SIZE_IN_BYTES then
    (.error .badBufferSize, f)
  else if bufferSizeInBytes % 4 ≠ 0 then
    (.error .badBufferSize, f)
  else if f.locked (blockNumber inst targetAddress) then
    (.error .deviceError, f)
  else
    (.ok (), f.program targetAddress.toNat (4 * (bufferSizeInBytes / 4).toNat) buffer)

/-- The retry loop of `NorFlashUnlockAndEraseSingleBlock`, with the attempts
left after this one. -/
def unlockAndEraseLoop (blockAddress : Uintn) : Nat → NorFlash → EfiStatus × NorFlash
  | 0, f =>
    match norFlashUnlockSingleBlockIfNecessary inst blockAddress f with
    | (.error e, f) => (.error e, f)
    | (.ok _, f) => norFlashEraseSingleBlock inst blockAddress f
  | attempts + 1, f =>
    match norFlashUnlockSingleBlockIfNecessary inst blockAddress f with
    | (.error e, f) => (.error e, f)
    | (.ok _, f) =>
      match norFlashEraseSingleBlock inst blockAddress f with
      | (.error .writeProtected, f) => unlockAndEraseLoop blockAddress attempts f
      | (status, f) => (status, f)

def norFlashUnlockAndEraseSingleBlock (blockAddress : Uintn) (f : NorFlash) :
    EfiStatus × NorFlash :=
  unlockAndEraseLoop inst blockAddress (NOR_FLASH_ERASE_RETRY - 1) f

/-- Some word of the 128-byte chunk is not all ones. -/
def chunkHasData (data : Nat → U8) : Bool :=
  (List.range P30_MAX_BUFFER_SIZE_IN_WORDS.toNat).any (fun cnt =>
    ~~~ loadCell data (4 * cnt) != 0)

/-- The loop over the 128-byte chunks of `NorFlashWriteFullBlock`. -/
def writeChunksLoop : Nat → Uintn → (Nat → U8) → NorFlash → EfiStatus × NorFlash
  | 0, _, _, f => (.ok (), f)
  | chunks + 1, wordAddress, data, f =>
    let written := if chunkHasData data then
        norFlashWriteBuffer inst wordAddress P30_MAX_BUFFER_SIZE_IN_BYTES data f
      else
        (.ok (), f)
    match written with
    | (.error e, f) => (.error e, f)
    | (.ok _, f) =>
      writeChunksLoop chunks (wordAddress + P30_MAX_BUFFER_SIZE_IN_BYTES)
        (fun i => data (i + P30_MAX_BUFFER_SIZE_IN_BYTES.toNat)) f

/-- The single-word loop of `NorFlashWriteFullBlock`. -/
def writeWordsLoop : Nat → Uintn → (Nat → U8) → NorFlash → EfiStatus × NorFlash
  | 0, _, _, f => (.ok (), f)
  | words + 1, wordAddress, data, f =>
    match norFlashWriteSingleWord inst wordAddress data f with
    | (.error e, f) => (.error e, f)
    | (.ok _, f) => writeWordsLoop words (wordAddress + 4) (fun i => data (i + 4)) f

def norFlashWriteFullBlock (lba : U64) (dataBuffer : Nat → U8) (blockSizeInWords : U32)
    (f : NorFlash) : EfiStatus × NorFlash :=
  let blockAddress := inst.regionBaseAddress + lba * blockSizeInWords.setWidth 64 * 4
  match norFlashUnlockAndEraseSingleBlock inst blockAddress f with
  | (.error e, f) => (.error e, f)
  | (.ok _, f) =>
    if blockAddress &&& BOUNDARY_OF_32_WORDS = 0 then
      let buffersInBlock :=
        (blockSizeInWords * 4).setWidth 64 / P30_MAX_BUFFER_SIZE_IN_BYTES
      match writeChunksLoop inst buffersInBlock.toNat blockAddress dataBuffer f with
      | (.error e, f) => (.error e, f)
      | (.ok _, f) =>
        let remainingWords := blockSizeInWords.setWidth 64 % P30_MAX_BUFFER_SIZE_IN_WORDS
        if remainingWords ≠ 0 then
          let done := buffersInBlock * P30_MAX_BUFFER_SIZE_IN_BYTES
          norFlashWriteBuffer inst (blockAddress + done) (remainingWords * 4)
            (fun i => dataBuffer (i + done.toNat)) f
        else
          (.ok (), f)
    else
      writeWordsLoop inst blockSizeInWords.toNat blockAddress dataBuffer f

/-- The block loop of `NorFlashWriteBlocks`. -/
def writeBlocksLoop (blockSizeInWords : U32) :
    Nat → U64 → (Nat → U8) → NorFlash → EfiStatus × NorFlash
  | 0, _, _, f => (.ok (), f)
  | blocks + 1, currentBlock, buffer, f =>
    match norFlashWriteFullBlock inst currentBlock buffer blockSizeInWords f with
    | (.error e, f) => (.error e, f)
    | (.ok _, f) =>
      writeBlocksLoop blockSizeInWords blocks (currentBlock + 1)
        (fun i => buffer (i + 4 * blockSizeInWords.toNat)) f

def norFlashWriteBlocks (lba : U64) (bufferSizeInBytes : Uintn) (buffer : Nat → U8)
    (f : NorFlash) : EfiStatus × NorFlash :=
  if bufferSizeInBytes = 0 then
    (.error .badBufferSize, f)
  else if bufferSizeInBytes % inst.blockSize.setWidth 64 ≠ 0 then
    (.error .badBufferSize, f)
  else
    let numBlocks := bufferSizeInBytes.setWidth 32 / inst.blockSize
    if lba + numBlocks.setWidth 64 > inst.lastBlock + 1 then
      (.error .invalidParameter, f)
    else
      writeBlocksLoop inst (inst.blockSize / 4) numBlocks.toNat lba buffer f

/-- The contents of the buffer after the call. -/
def norFlashReadBlocks (lba : U64) (bufferSizeInBytes : Uintn) (buffer : Nat → U8)
    (f : NorFlash) : EfiResult (Nat → U8) :=
  if bufferSizeInBytes = 0 then
    .ok buffer
  else if bufferSizeInBytes % inst.blockSize.setWidth 64 ≠ 0 then
    .error .badBufferSize
  else
    let numBlocks := bufferSizeInBytes.setWidth 32 / inst.blockSize
    if lba + numBlocks.setWidth 64 > inst.lastBlock + 1 then
      .error .invalidParameter
    else
      let startAddress := norBlockAddress inst lba
      .ok (Segment.overlay buffer 0 bufferSizeInBytes.toNat
        (fun i => f.bytes (startAddress.toNat + i)))

def norFlashRead (lba : U64) (offset bufferSizeInBytes : Uintn) (buffer : Nat → U8)
    (f : NorFlash) : EfiResult (Nat → U8) :=
  if bufferSizeInBytes = 0 then
    .ok buffer
  else if lba * inst.blockSize.setWidth 64 + offset + bufferSizeInBytes > inst.size then
    .error .invalidParameter
  else
    let startAddress := norBlockAddress inst lba + offset
    .ok (Segment.overlay buffer 0 bufferSizeInBytes.toNat
      (fun i => f.bytes (startAddress.toNat + i)))

/-- The update loop of `NorFlashWriteSingleBlock` over the old data at `base` in
the shadow buffer, from byte `cur` on: the updated shadow buffer, and whether
every byte only clears bits; `false` is the jump to `DoErase`. -/
def updateShadowLoop (base : Nat) (data : Nat → U8) :
    Nat → Nat → (Nat → U8) → (Nat → U8) × Bool
  | 0, _, shadow => (shadow, true)
  | left + 1, cur, shadow =>
    if ~~~ shadow (base + cur) &&& data cur ≠ 0 then
      (shadow, false)
    else
      updateShadowLoop base data left (cur + 1)
        (Segment.overlay shadow (base + cur) 1 (fun _ => data cur))

/-- The flash and the shadow buffer after a write, with its status. -/
structure NorFlashRun where
  status : EfiStatus
  flash : NorFlash
  shadow : Nat → U8

/-- The path from `DoErase` on: rewrite the whole block. -/
def norFlashEraseAndWrite (lba : U64) (offset numBytes : Uintn) (buffer : Nat → U8)
    (f : NorFlash) (shadow : Nat → U8) : NorFlashRun :=
  let blockSize := inst.blockSize.setWidth 64
  match norFlashReadBlocks inst lba blockSize shadow f with
  | .error _ => ⟨.error .deviceError, f, shadow⟩
  | .ok shadow =>
    let shadow := Segment.overlay shadow offset.toNat numBytes.toNat buffer
    match norFlashWriteBlocks inst lba blockSize shadow f with
    | (.error _, f) => ⟨.error .deviceError, f, shadow⟩
    | (.ok _, f) => ⟨.ok (), f, shadow⟩

/-- The path that programs the updated lines without an erase. -/
def norFlashProgramLines (lba : U64) (offset numBytes : Uintn) (f : NorFlash)
    (shadow : Nat → U8) : NorFlashRun :=
  let blockAddress := norBlockAddress inst lba
  match norFlashUnlockSingleBlockIfNecessary inst blockAddress f with
  | (.error e, f) => ⟨.error e, f, shadow⟩
  | (.ok _, f) =>
    match norFlashWriteBuffer inst (blockAddress + (offset &&& ~~~ BOUNDARY_OF_32_WORDS))
        P30_MAX_BUFFER_SIZE_IN_BYTES shadow f with
    | (.error e, f) => ⟨.error e, f, shadow⟩
    | (.ok _, f) =>
      if numBytes + (offset &&& BOUNDARY_OF_32_WORDS) > P30_MAX_BUFFER_SIZE_IN_BYTES then
        let blockAddress := blockAddress + P30_MAX_BUFFER_SIZE_IN_BYTES
        let (status, f) :=
          norFlashWriteBuffer inst (blockAddress + (offset &&& ~~~ BOUNDARY_OF_32_WORDS))
            P30_MAX_BUFFER_SIZE_IN_BYTES
            (fun i => shadow (i + P30_MAX_BUFFER_SIZE_IN_BYTES.toNat)) f
        ⟨status, f, shadow⟩
      else
        ⟨.ok (), f, shadow⟩

def norFlashWriteSingleBlock (lba : U64) (offset numBytes : Uintn) (buffer : Nat → U8)
    (f : NorFlash) (shadow : Nat → U8) : NorFlashRun :=
  let blockSize := inst.blockSize.setWidth 64
  if offset ≥ blockSize || numBytes > blockSize || offset + numBytes > blockSize then
    ⟨.error .badBufferSize, f, shadow⟩
  else if numBytes = 0 then
    ⟨.error .badBufferSize, f, shadow⟩
  else if numBytes + (offset &&& BOUNDARY_OF_32_WORDS) ≤
      2 * P30_MAX_BUFFER_SIZE_IN_BYTES then
    match norFlashRead inst lba (offset &&& ~~~ BOUNDARY_OF_32_WORDS)
        ((numBytes ||| BOUNDARY_OF_32_WORDS) + 1) shadow f with
    | .error _ => ⟨.error .deviceError, f, shadow⟩
    | .ok shadow =>
      match updateShadowLoop (offset &&& BOUNDARY_OF_32_WORDS).toNat buffer numBytes.toNat
          0 shadow with
      | (shadow, true) => norFlashProgramLines inst lba offset numBytes f shadow
      | (shadow, false) => norFlashEraseAndWrite inst lba offset numBytes buffer f shadow
  else
    norFlashEraseAndWrite inst lba offset numBytes buffer f shadow

def fvbWrite (lba : U64) (offset numBytes : Uintn) (buffer : Nat → U8) (f : NorFlash)
    (shadow : Nat → U8) : NorFlashRun :=
  norFlashWriteSingleBlock inst (inst.startLba + lba) offset numBytes buffer f shadow

end Driver

end FdtBusPkg
