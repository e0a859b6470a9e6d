import Netpoke.Server.KeylogStore
import Netpoke.Library.Text

/-!
# Reading the keylog file back

`download_keylog_for_session` serves what `generate_keylog_file` writes as an `SSLKEYLOGFILE`
(`server/src/dtls_keylog.rs`): the NSS key log format, which a TLS dissector reads to decrypt the
DTLS of a capture. Each line is the label `CLIENT_RANDOM`, the client random and the master
secret, both in hexadecimal, separated by blanks; each line ends with a line feed.
`parseKeylogFile` is that reader, for the one label the server writes.

The file of every session, from every state of the service, reads back as exactly the entries
stored for the session, in order (`keylog_file_reads_back`): the dissector gets every key the
server kept and nothing else. It rests on the hexadecimal round trip of `CharList.hexDecode_digits`
and on the separators being absent from what they separate.
-/

namespace Netpoke

open CharList

/-- One line of the NSS key log format, `CLIENT_RANDOM <client random> <master secret>`. -/
def parseKeylogLine (line : List Char) : Option DtlsKeylogEntry :=
  match line.splitOn ' ' with
  | [label, clientRandom, masterSecret] =>
    if label = "CLIENT_RANDOM".toList then
      match hexDecode clientRandom, hexDecode masterSecret with
      | some clientRandom, some masterSecret => some ⟨clientRandom, masterSecret⟩
      | _, _ => none
    else none
  | _ => none

/-- A key log file: lines each ended by a line feed, every one a `CLIENT_RANDOM` line. -/
def parseKeylogFile (file : List Char) : Option (List DtlsKeylogEntry) :=
  let pieces := file.splitOn '\n'
  if pieces.getLast? = some [] then pieces.dropLast.mapM parseKeylogLine else none

theorem toSslkeylogLine_eq_intercalate (entry : DtlsKeylogEntry) :
    entry.toSslkeylogLine =
      [' '].intercalate
        ["CLIENT_RANDOM".toList, hexEncode entry.clientRandom, hexEncode entry.masterSecret] := by
  have hlabel : "CLIENT_RANDOM ".toList = "CLIENT_RANDOM".toList ++ [' '] := rfl
  unfold DtlsKeylogEntry.toSslkeylogLine
  rw [hlabel]
  simp only [List.intercalate_cons_cons, List.intercalate_singleton, List.append_assoc,
    List.cons_append, List.nil_append]

theorem parseKeylogLine_toSslkeylogLine (entry : DtlsKeylogEntry) :
    parseKeylogLine entry.toSslkeylogLine = some entry := by
  have hfields : ∀ field ∈ ["CLIENT_RANDOM".toList, hexEncode entry.clientRandom,
      hexEncode entry.masterSecret], ' ' ∉ field := by
    intro field hfield
    rcases List.mem_cons.mp hfield with rfl | hfield
    · decide
    rcases List.mem_cons.mp hfield with rfl | hfield
    · exact space_not_mem_digits _
    rcases List.mem_singleton.mp hfield with rfl
    exact space_not_mem_digits _
  have hsplit := List.splitOn_intercalate ' ' hfields (List.cons_ne_nil _ _)
  rw [parseKeylogLine, toSslkeylogLine_eq_intercalate, hsplit]
  dsimp only
  rw [if_pos rfl, hexEncode, hexEncode, hexDecode_digits, hexDecode_digits]

theorem mapM_parseKeylogLine (entries : List DtlsKeylogEntry) :
    (entries.map DtlsKeylogEntry.toSslkeylogLine).mapM parseKeylogLine = some entries := by
  induction entries with
  | nil => rfl
  | cons entry entries ih =>
    rw [List.map_cons, List.mapM_cons, parseKeylogLine_toSslkeylogLine, ih]
    rfl

/-- Lines ended by line feeds, none holding one, read back line by line. -/
theorem parseKeylogFile_lines (entries : List DtlsKeylogEntry) :
    parseKeylogFile ((entries.map DtlsKeylogEntry.toSslkeylogLine).flatMap (· ++ ['\n'])) =
      some entries := by
  have hnl : ∀ line ∈ entries.map DtlsKeylogEntry.toSslkeylogLine ++ [[]], '\n' ∉ line := by
    intro line hline
    rcases List.mem_append.mp hline with hline | hline
    · obtain ⟨entry, -, rfl⟩ := List.mem_map.mp hline
      exact DtlsKeylogService.toSslkeylogLine_no_newline entry
    · rw [List.mem_singleton.mp hline]
      exact List.not_mem_nil
  have hsplit := List.splitOn_intercalate '\n' hnl (List.append_ne_nil_of_right_ne_nil _
    (List.cons_ne_nil _ _))
  rw [parseKeylogFile, flatMap_append_sep, hsplit, if_pos (by simp), List.dropLast_append_of_ne_nil (List.cons_ne_nil _ _),
    List.dropLast_singleton, List.append_nil, mapM_parseKeylogLine]

/-- The keylog file of every session, from every state of the service, reads back as the
entries stored for the session, in order. -/
theorem keylog_file_reads_back (svc : DtlsKeylogService) (surveySessionId : List Char) :
    parseKeylogFile (svc.generateKeylogFile surveySessionId) =
      some (svc.getKeylogs surveySessionId) := by
  rw [DtlsKeylogService.generateKeylogFile_eq_lines, parseKeylogFile_lines]

end Netpoke
