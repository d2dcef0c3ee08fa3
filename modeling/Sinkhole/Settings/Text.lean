import Sinkhole.Settings.Decode

/-!
# Settings as a document

The text of settings has a section for each of their parts, and in it a line for each
setting that is set. A list of more than one text has a line for each.
-/

namespace Sinkhole
namespace Settings

/-- The name that a value has among choices. -/
def nameOf {α : Type} [DecidableEq α] (choices : List (String × α)) (value : α) : String :=
  ((choices.find? fun choice => choice.2 = value).map Prod.fst).getD ""

/-- A character of a text, escaped where it has to be. -/
def escapedChar (character : Char) : String :=
  if character == '"' then "\\\""
  else if character == '\\' then "\\\\"
  else if Toml.isPlain character then String.singleton character
  else
    let digits := Text.lowerHex character.toNat
    "\\u" ++ String.ofList (List.replicate (4 - digits.length) '0' ++ digits)

/-- A text between quotes. -/
def quotedText (content : String) : String :=
  "\"" ++ String.join (content.toList.map escapedChar) ++ "\""

/-- The spelling of a truth value. -/
def truthText (value : Bool) : String :=
  if value then "true" else "false"

/-- A list of texts. -/
def listText (contents : List String) : String :=
  match contents with
  | [] => "[]"
  | [content] => "[" ++ quotedText content ++ "]"
  | contents =>
      "[\n" ++
        String.join (contents.map fun content => "    " ++ quotedText content ++ ",\n") ++ "]"

/-- The text of a section: its name, and its settings in order. -/
def sectionText (name : String) (settings : List (String × Option String)) : String :=
  "[" ++ name ++ "]\n" ++
    String.join (settings.filterMap fun (name, value) =>
      value.map fun value => name ++ " = " ++ value ++ "\n")

/-- The section of the server. -/
def Server.text (server : Server) : String :=
  sectionText "server"
    [("ip", some (quotedText server.address.text)),
      ("udp_port", server.udpPort.map fun port => toString port.toNat),
      ("tcp_port", server.tcpPort.map fun port => toString port.toNat),
      ("log_level", some (quotedText (nameOf levelNames server.logLevel))),
      ("log_format", some (quotedText (nameOf formatNames server.logFormat))),
      ("tcp_idle_timeout_ms", some (toString server.tcpIdleMillis.toNat))]

/-- The section of the nameservers. -/
def Upstream.text (upstream : Upstream) : String :=
  sectionText "upstream"
    [("nameservers", some (listText (upstream.nameservers.map Net.Address.text))),
      ("transport", some (quotedText (nameOf transportNames upstream.transport))),
      ("tls_server_name", upstream.tlsServerName.map quotedText),
      ("port", upstream.port.map fun port => toString port.toNat),
      ("dial_timeout_ms", some (toString upstream.dialMillis.toNat)),
      ("read_timeout_ms", some (toString upstream.readMillis.toNat)),
      ("write_timeout_ms", some (toString upstream.writeMillis.toNat))]

/-- The section of the blocked names. -/
def Blocking.text (blocking : Blocking) : String :=
  sectionText "blocklist"
    [("path", blocking.path.map quotedText),
      ("strict", some (truthText blocking.strict))]

/-- The text of settings. -/
def text (settings : Settings) : String :=
  "\n".intercalate
    [settings.server.text, settings.upstream.text, settings.blocking.text]

end Settings
end Sinkhole
