import ZeroFeed.Core.Text
import ZeroFeed.Feed.Sanitize
import ZeroFeed.Crypto.Cipher

/-!
# Delivered payloads (`SubscribeStream`, tag dispatch)

A delivered plaintext is routed by its first byte: text to the output, file
messages to the transfer they belong to, anything else to the output as it is.
The file system and JSON decoding are parameters; progress bars are left out.
-/

namespace ZeroFeed.Transfer

open ZeroFeed.ByteString
open ZeroFeed.Messages
open ZeroFeed.Primitives
open ZeroFeed.Cipher
open ZeroFeed.Sanitize
open ZeroFeed.Text (slash decimal)

/-! ## Slash-separated paths -/

def dot : Bytes := [0x2E]

def dotDot : Bytes := [0x2E, 0x2E]

/-- `filepath.Base`. -/
def base (path : Bytes) : Bytes :=
  if path = [] then dot
  else
    let trimmed := (path.reverse.dropWhile fun byte => byte = slash).reverse
    let last := (trimmed.reverse.takeWhile fun byte => byte ≠ slash).reverse
    if last = [] then [slash] else last

/-- The elements between slashes, empty ones included. -/
def elements : Bytes → List Bytes
  | [] => [[]]
  | byte :: rest =>
      if byte = slash then [] :: elements rest
      else
        match elements rest with
        | [] => [[byte]]
        | element :: others => (byte :: element) :: others

/-- Resolve one element against the ones already kept, last one first. -/
def cleanElement (rooted : Bool) (kept : List Bytes) (element : Bytes) : List Bytes :=
  if element = [] ∨ element = dot then kept
  else if element = dotDot then
    match kept with
    | [] => if rooted then [] else [dotDot]
    | last :: before => if last = dotDot then dotDot :: kept else before
  else element :: kept

/-- `filepath.Clean`. -/
def clean (path : Bytes) : Bytes :=
  let rooted : Bool := path.head? = some slash
  let kept := ((elements path).foldl (cleanElement rooted) []).reverse
  let joined := (if rooted then [slash] else []) ++ List.intercalate [slash] kept
  if joined = [] then dot else joined

/-- `filepath.Join` of two elements, the first one not empty. -/
def join (directory name : Bytes) : Bytes := clean (directory ++ [slash] ++ name)

/-! ## File transfers -/

/-- File system operations and JSON decoding. -/
structure Host where
  Disk : Type
  File : Type
  mkdirAll : Disk → Bytes → Disk
  create : Disk → Bytes → Option (Disk × File)
  /-- Bytes written, as `Write` reports them. -/
  write : Disk → File → Bytes → Disk × ℕ
  closeFile : Disk → File → Disk
  /-- The content read by `os.Open` and `io.Copy`. -/
  readFile : Disk → Bytes → Option Bytes
  unmarshalHeader : Bytes → Option FileHeader

structure ActiveFile (host : Host) where
  file : host.File
  filename : Bytes
  received : ℕ
  chunkCount : ℕ
  header : FileHeader

/-- Messages for the user on standard error. -/
inductive Report where
  | incoming (filename outPath : Bytes) (fileSize : ℤ)
  | checksumMismatch (filename expected received : Bytes)
  | verified (filename : Bytes) (received : ℕ) (sum : Bytes)
  | saved (filename : Bytes) (received : ℕ)
  deriving DecidableEq

/-- What `SubscribeStream` keeps and touches besides the engine. -/
structure Desk (host : Host) where
  activeFiles : List (Bytes × ActiveFile host)
  disk : host.Disk
  /-- What was passed to the writer and the callback. -/
  output : List Bytes
  /-- Transfer identifiers acknowledged to the publisher. -/
  acks : List Bytes
  reports : List Report

def downloads : Bytes := ascii "./downloads"

def transferIDSize : ℕ := 16

/-- `hex.EncodeToString`. -/
def hexString (bytes : Bytes) : Bytes :=
  let digit := fun value : ℕ => ((ascii "0123456789abcdef").getD value 0)
  bytes.flatMap fun byte => [digit (byte.toNat / 16), digit (byte.toNat % 16)]

namespace Desk

variable {host : Host} (desk : Desk host)

def lookup (transferID : Bytes) : Option (ActiveFile host) :=
  desk.activeFiles.lookup transferID

def delete (transferID : Bytes) : Desk host :=
  { desk with activeFiles := desk.activeFiles.filter fun entry => entry.1 ≠ transferID }

def insert (transferID : Bytes) (file : ActiveFile host) : Desk host :=
  { desk with activeFiles := (transferID, file) :: (desk.delete transferID).activeFiles }

def emit (text : Bytes) : Desk host := { desk with output := desk.output ++ [text] }

def report (entry : Report) : Desk host := { desk with reports := desk.reports ++ [entry] }

def sendAck (transferID : Bytes) : Desk host :=
  { desk with acks := desk.acks ++ [transferID] }

/-- `TagFileStart`. -/
def fileStart (data : Bytes) : Desk host :=
  match host.unmarshalHeader data with
  | none => desk
  | some header =>
      if header.transferID = [] then desk
      else
        let name := base header.filename
        let name := if name = dot ∨ name = [slash] then ascii "received_file" else name
        let outPath := join downloads name
        let disk := host.mkdirAll desk.disk downloads
        match host.create disk outPath with
        | none => { desk with disk := disk }
        | some (disk, file) =>
            (({ desk with disk := disk }).insert header.transferID
              ⟨file, name, 0, 0, header⟩).report (.incoming name outPath header.fileSize)

/-- `TagFileChunk`: every sixteenth chunk is acknowledged. -/
def fileChunk (data : Bytes) : Desk host :=
  if data.length ≤ transferIDSize then desk
  else
    let transferID := data.take transferIDSize
    match desk.lookup transferID with
    | none => desk
    | some active =>
        let (disk, count) := host.write desk.disk active.file (data.drop transferIDSize)
        let active := { active with
          received := active.received + count
          chunkCount := active.chunkCount + 1 }
        let desk := { desk with disk := disk }.insert transferID active
        if active.chunkCount % 16 = 0 then desk.sendAck transferID else desk

/-- The checksum report of a finished transfer. -/
def checkFile (suite : Suite) (active : ActiveFile host) : Desk host :=
  if active.header.sha256 = [] then
    desk.report (.saved active.filename active.received)
  else
    match host.readFile desk.disk (join downloads active.filename) with
    | none => desk
    | some content =>
        let downloadedSum := hexString (suite.sha256 content).val
        if downloadedSum ≠ active.header.sha256 then
          desk.report (.checksumMismatch active.filename active.header.sha256 downloadedSum)
        else desk.report (.verified active.filename active.received (downloadedSum.take 12))

/-- `TagFileEnd`. -/
def fileEnd (suite : Suite) (data : Bytes) : Desk host :=
  if data.length < transferIDSize then desk
  else
    let transferID := data.take transferIDSize
    match desk.lookup transferID with
    | none => desk
    | some active =>
        let closed := { desk with disk := host.closeFile desk.disk active.file }
        ((closed.sendAck transferID).checkFile suite active).delete transferID

/-- Route a delivered plaintext by its tag. -/
def dispatch (suite : Suite) : Bytes → Desk host
  | [] => desk
  | tag :: data =>
      if tag = tagText then desk.emit (sanitizeTextOutput data)
      else if tag = tagFileStart then desk.fileStart data
      else if tag = tagFileChunk then desk.fileChunk data
      else if tag = tagFileEnd then desk.fileEnd suite data
      else desk.emit (tag :: data)

/-- The deferred cleanup when `SubscribeStream` returns: every open file is
closed and the table goes out of scope. -/
def closeFiles : Desk host :=
  { desk with
    activeFiles := []
    disk := desk.activeFiles.foldl
      (fun disk entry => host.closeFile disk entry.2.file) desk.disk }

/-! ### Output -/

@[simp]
theorem output_fileStart (data : Bytes) : (desk.fileStart data).output = desk.output := by
  rw [fileStart]
  split
  · rfl
  · split
    · rfl
    · simp only
      split <;> rfl

@[simp]
theorem output_fileChunk (data : Bytes) : (desk.fileChunk data).output = desk.output := by
  rw [fileChunk]
  split
  · rfl
  · simp only
    split
    · rfl
    · split <;> rfl

@[simp]
theorem output_checkFile (suite : Suite) (active : ActiveFile host) :
    (desk.checkFile suite active).output = desk.output := by
  rw [checkFile]
  split
  · rfl
  · split
    · rfl
    · simp only
      split <;> rfl

@[simp]
theorem output_fileEnd (suite : Suite) (data : Bytes) :
    (desk.fileEnd suite data).output = desk.output := by
  rw [fileEnd]
  split
  · rfl
  · simp only
    split
    · rfl
    · simp [delete, sendAck]

end Desk

/-- What a delivered plaintext adds to the output. -/
def shown : Bytes → List Bytes
  | [] => []
  | tag :: data =>
      if tag = tagText then [sanitizeTextOutput data]
      else if tag = tagFileStart ∨ tag = tagFileChunk ∨ tag = tagFileEnd then []
      else [tag :: data]

/-- File messages leave the output alone, so what is shown depends on the
plaintext only. -/
theorem output_dispatch {host : Host} (desk : Desk host) (suite : Suite) (payload : Bytes) :
    (desk.dispatch suite payload).output = desk.output ++ shown payload := by
  cases payload with
  | nil => exact (List.append_nil _).symm
  | cons tag data =>
      rw [Desk.dispatch, shown]
      split_ifs <;> simp_all [Desk.emit]

/-! ## Hosts to run on -/

/-- `json.Marshal` of a header whose strings need no escapes and whose size is not
negative. -/
def plainJSON (header : FileHeader) : Bytes :=
  ascii "\x7b\"transfer_id\":\"" ++ header.transferID ++
    ascii "\",\"filename\":\"" ++ header.filename ++
    ascii "\",\"file_size\":" ++ decimal header.fileSize.toNat ++
    (if header.sha256 = [] then [] else ascii ",\"sha256\":\"" ++ header.sha256 ++ ascii "\"") ++
    ascii "\x7d"

/-- `json.Unmarshal` on the texts of the given headers. -/
def parsePlain (headers : List FileHeader) (text : Bytes) : Option FileHeader :=
  headers.find? fun header => plainJSON header = text

/-- The announcement of an empty file without a checksum. -/
def sampleHeader : FileHeader := ⟨ascii "0102030405060708", ascii "notes.txt", 0, []⟩

/-- A host that accepts every file and counts how often one is closed. -/
def countingHost : Host where
  Disk := ℕ
  File := Unit
  mkdirAll disk _ := disk
  create disk _ := some (disk, ())
  write disk _ chunk := (disk, chunk.length)
  closeFile disk _ := disk + 1
  readFile _ _ := none
  unmarshalHeader := parsePlain [sampleHeader]

def noneClosed : countingHost.Disk := (0 : ℕ)

def closedCount (desk : Desk countingHost) : ℕ := desk.disk

end ZeroFeed.Transfer
