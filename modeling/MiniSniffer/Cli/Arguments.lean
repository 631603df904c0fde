import MiniSniffer.Cli.Values
import MiniSniffer.Foundation.CommandLine

/-!
Contract: the command line (`cli_parse_args` in `src/cli.c`, `config_init_defaults` in
`src/config.c`).

Owns the whole configuration with its defaults, every option with what it stores and the error it
reports, and the checks that follow the last option. A division by zero among them has no result.

The arguments are those behind the program name, without their terminators. The usage text that
follows an error is left out.
-/

namespace MiniSniffer

open Foundation

/-! ### Configuration -/

def minisnifferDefaultPayloadPreviewBytes : Nat := 256

/-- The configuration with the options that choose the capture source or shape the output. -/
structure MiniSnifferConfig extends AppConfig where
  interfaceName : List UInt8 := []
  payloadPreviewBytes : Nat := minisnifferDefaultPayloadPreviewBytes
  statsMode : Bool := false
  versionRequested : Bool := false
  listInterfaces : Bool := false
  quiet : Bool := false
  verbose : Bool := false
  colorEnabled : Bool := true
  logFlushMode : LogFlushMode := .line
  readPathEnabled : Bool := false
  readPath : List UInt8 := []
  writePathEnabled : Bool := false
  writePath : List UInt8 := []
  payloadDisplayEnabled : Bool := false
  loggingEnabled : Bool := false
  logPath : List UInt8 := []
deriving DecidableEq, Repr

def configInitDefaults : MiniSnifferConfig := {}

/-- The configuration while options are read, and which reassembly settings were among them. -/
structure CliState where
  config : MiniSnifferConfig
  maxFlowsWasSet : Bool := false
  streamBufferWasSet : Bool := false
  flowTimeoutWasSet : Bool := false
deriving DecidableEq, Repr

/-- How the program was built and what it is linked with. -/
structure CliBuild where
  withLibidn2 : Bool
  inetPton : InetPton

/-! ### Errors -/

/-- The line that an error prints in front of the usage text. -/
def failWithError (message : List UInt8) : List UInt8 := ascii "Error: " ++ message ++ ascii "\n"

/-- The error of a value that is no name of its kind. -/
def failInvalid (kind value : List UInt8) : List UInt8 :=
  failWithError (ascii "invalid " ++ kind ++ ascii ": " ++ value ++ ascii ".")

def failInvalidPort : List UInt8 := failWithError (ascii "port must be between 1 and 65535.")

def failInvalidHost : List UInt8 :=
  failWithError (ascii "host must be a valid IPv4 or IPv6 address.")

def failInvalidPayloadBytes : List UInt8 :=
  failWithError (ascii "payload byte preview must be between 1 and " ++
    decimalText minisnifferMaxPayloadPreviewBytes ++ ascii ".")

def failInvalidPayloadDecodeBytes : List UInt8 :=
  failWithError (ascii "payload decode bytes must be between 1 and " ++
    decimalText minisnifferMaxPayloadDecodeBytes ++ ascii ".")

def failInvalidPayloadText : List UInt8 :=
  failWithError (ascii "payload text filter must be between 1 and " ++
    decimalText minisnifferMaxPayloadPatternBytes ++ ascii " bytes.")

def failInvalidPayloadHex : List UInt8 :=
  failWithError (ascii "payload hex filter must contain 1 to " ++
    decimalText minisnifferMaxPayloadPatternBytes ++ ascii " bytes of hex.")

def failInvalidPositiveSize (optionName : List UInt8) : List UInt8 :=
  failWithError (optionName ++ ascii " must be a positive integer.")

/-! ### Kinds of options -/

abbrev CliOption : Type := CommandOption (List UInt8) CliState (List UInt8)

def CliState.configure (update : MiniSnifferConfig → MiniSnifferConfig) (state : CliState) :
    CliState :=
  { state with config := update state.config }

def flagOption (update : MiniSnifferConfig → MiniSnifferConfig) : CliOption :=
  .flag (CliState.configure update)

/-- An option whose value is parsed, or else refused with an error. -/
def parsedOption {Value : Type} (missing : List UInt8) (parse : List UInt8 → Option Value)
    (refused : List UInt8 → List UInt8) (store : Value → CliState → CliState) : CliOption :=
  .valued missing fun text state =>
    match parse text with
    | none => .error (refused text)
    | some value => .ok (store value state)

def requiresValue (optionName : List UInt8) : List UInt8 :=
  failWithError (optionName ++ ascii " requires a value.")

def requiresPath (optionName : List UInt8) : List UInt8 :=
  failWithError (optionName ++ ascii " requires a file path.")

/-- A table entry for an option with a value that only changes the configuration. -/
def valueEntry {Value : Type} (name : List UInt8) (parse : List UInt8 → Option Value)
    (refused : List UInt8 → List UInt8)
    (update : Value → MiniSnifferConfig → MiniSnifferConfig) : List UInt8 × CliOption :=
  (name, parsedOption (requiresValue name) parse refused
    fun value => CliState.configure (update value))

/-- A table entry for a text that is copied into an array. -/
def textEntry (name : List UInt8) (destinationSize : Nat) (tooLong : List UInt8)
    (update : List UInt8 → MiniSnifferConfig → MiniSnifferConfig) : List UInt8 × CliOption :=
  valueEntry name (copyArg destinationSize) (fun _ => failWithError tooLong) update

/-- A table entry for a file path. -/
def pathEntry (name tooLong : List UInt8)
    (update : List UInt8 → MiniSnifferConfig → MiniSnifferConfig) : List UInt8 × CliOption :=
  (name, parsedOption (requiresPath name) (copyArg 256) (fun _ => failWithError tooLong)
    fun value => CliState.configure (update value))

/-- A parse of a number, with an upper bound. -/
def atMost (largest : Nat) (parsed : Option Nat) : Option Nat :=
  match parsed with
  | none => none
  | some value => if value > largest then none else some value

/-! ### Options -/

def displayOptions : List (List UInt8 × CliOption) :=
  [(ascii "--version", flagOption fun config => { config with versionRequested := true }),
    (ascii "--list-interfaces", flagOption fun config => { config with listInterfaces := true }),
    (ascii "--quiet", flagOption fun config => { config with quiet := true }),
    (ascii "--verbose", flagOption fun config => { config with verbose := true }),
    (ascii "--no-color", flagOption fun config => { config with colorEnabled := false }),
    (ascii "--json", flagOption fun config => { config with jsonOutput := true }),
    (ascii "--no-bpf", flagOption fun config => { config with noBpf := true })]

def captureOptions (build : CliBuild) : List (List UInt8 × CliOption) :=
  [textEntry (ascii "--interface") 64 (ascii "interface name is too long.")
      fun name config => { config with interfaceName := name },
    valueEntry (ascii "--count") parsePositiveInt
      (fun _ => failWithError (ascii "count must be a positive integer."))
      fun count config => { config with maxPackets := UInt32.ofNat count },
    valueEntry (ascii "--protocol") protocolFromString (failInvalid (ascii "protocol"))
      fun protocol config =>
        { config with filterProtocolEnabled := true, filterProtocol := protocol },
    valueEntry (ascii "--port") (fun text => atMost 65535 (parsePositiveInt text))
      (fun _ => failInvalidPort)
      fun port config =>
        { config with filterPortEnabled := true, filterPort := UInt16.ofNat port },
    valueEntry (ascii "--host") (parseIpHost build.inetPton) (fun _ => failInvalidHost)
      fun host config => { config with filterHostEnabled := true, filterHost := host },
    pathEntry (ascii "--log") (ascii "log path is too long.")
      fun path config => { config with loggingEnabled := true, logPath := path },
    pathEntry (ascii "--read") (ascii "read path is too long.")
      fun path config => { config with readPathEnabled := true, readPath := path },
    pathEntry (ascii "--write") (ascii "write path is too long.")
      fun path config => { config with writePathEnabled := true, writePath := path },
    valueEntry (ascii "--flush-log") parseLogFlushMode
      (fun _ => failWithError (ascii "--flush-log must be always, line, or exit."))
      fun mode config => { config with logFlushMode := mode }]

/-- `--payload-contains`: the text is stored as bytes. -/
def parsePayloadText (text : List UInt8) : Option (List UInt8) :=
  if text.length = 0 ∨ text.length > minisnifferMaxPayloadPatternBytes then none else some text

/-- `--domain-match`, which has two errors. -/
def domainMatchOption (build : CliBuild) : CliOption :=
  .valued (requiresValue (ascii "--domain-match")) fun text state =>
    match parseDomainMatchMode build.withLibidn2 text with
    | .unavailable =>
        .error (failWithError (ascii "--domain-match idna requires WITH_LIBIDN2=1."))
    | .unknown =>
        .error (failWithError (ascii "--domain-match must be normalized, exact, or idna."))
    | .parsed mode =>
        .ok (state.configure fun config => { config with domainMatchMode := mode })

def payloadOptions (build : CliBuild) : List (List UInt8 × CliOption) :=
  [(ascii "--payload", flagOption fun config => { config with payloadDisplayEnabled := true }),
    valueEntry (ascii "--payload-bytes")
      (fun text => atMost minisnifferMaxPayloadPreviewBytes (parsePositiveInt text))
      (fun _ => failInvalidPayloadBytes)
      fun preview config => { config with payloadPreviewBytes := preview },
    valueEntry (ascii "--payload-decode-bytes")
      (fun text => atMost minisnifferMaxPayloadDecodeBytes (parsePositiveSize text))
      (fun _ => failInvalidPayloadDecodeBytes)
      fun decode config => { config with payloadDecodeBytes := decode },
    (ascii "--domain-match", domainMatchOption build),
    valueEntry (ascii "--payload-contains") parsePayloadText (fun _ => failInvalidPayloadText)
      fun text config =>
        { config with filterPayloadTextEnabled := true, filterPayloadText := text },
    valueEntry (ascii "--payload-hex") parsePayloadHexPattern (fun _ => failInvalidPayloadHex)
      fun bytes config =>
        { config with filterPayloadHexEnabled := true, filterPayloadHex := bytes }]

def appOptions : List (List UInt8 × CliOption) :=
  [(ascii "--decode-app", flagOption fun config => { config with decodeApp := true }),
    valueEntry (ascii "--app") parseAppProtocol (failInvalid (ascii "app protocol"))
      fun protocol config =>
        { config with filterAppEnabled := true, filterAppProtocol := protocol },
    textEntry (ascii "--http-host") minisnifferAppTextLen (ascii "HTTP host filter is too long.")
      fun host config => { config with filterHttpHostEnabled := true, filterHttpHost := host },
    textEntry (ascii "--http-method") 16 (ascii "HTTP method filter is too long.")
      fun method config =>
        { config with filterHttpMethodEnabled := true, filterHttpMethod := method },
    textEntry (ascii "--dns-query") minisnifferAppTextLen (ascii "DNS query filter is too long.")
      fun query config => { config with filterDnsQueryEnabled := true, filterDnsQuery := query },
    valueEntry (ascii "--dns-type") parseDnsType (failInvalid (ascii "DNS type"))
      fun type config => { config with filterDnsTypeEnabled := true, filterDnsType := type },
    textEntry (ascii "--tls-sni") minisnifferAppTextLen (ascii "TLS SNI filter is too long.")
      fun host config => { config with filterTlsSniEnabled := true, filterTlsSni := host },
    textEntry (ascii "--tls-alpn") minisnifferTlsAlpnLen (ascii "TLS ALPN filter is too long.")
      fun protocol config =>
        { config with filterTlsAlpnEnabled := true, filterTlsAlpn := protocol },
    valueEntry (ascii "--dhcp-type") parseDhcpType (failInvalid (ascii "DHCP message type"))
      fun type config => { config with filterDhcpTypeEnabled := true, filterDhcpType := type },
    valueEntry (ascii "--quic-version") parseQuicVersion (failInvalid (ascii "QUIC version"))
      fun version config =>
        { config with filterQuicVersionEnabled := true, filterQuicVersion := version }]

/-- A table entry for a size of the flow table, which records that it was set. -/
def sizeEntry {Value : Type} (name : List UInt8) (parse : List UInt8 → Option Value)
    (store : Value → CliState → CliState) : List UInt8 × CliOption :=
  (name, parsedOption (requiresValue name) parse (fun _ => failInvalidPositiveSize name) store)

def reassemblyOptions : List (List UInt8 × CliOption) :=
  [(ascii "--reassemble", flagOption fun config => { config with reassemble := true }),
    sizeEntry (ascii "--max-flows") parsePositiveSize fun size state =>
      { state.configure fun config => { config with maxFlows := size } with
        maxFlowsWasSet := true },
    sizeEntry (ascii "--stream-buffer-bytes") parsePositiveSize fun size state =>
      { state.configure fun config => { config with streamBufferBytes := size } with
        streamBufferWasSet := true },
    sizeEntry (ascii "--flow-timeout") parsePositiveUint32 fun seconds state =>
      { state.configure fun config => { config with flowTimeoutSeconds := seconds.toNat } with
        flowTimeoutWasSet := true },
    (ascii "--stats", flagOption fun config => { config with statsMode := true })]

/-- The options in the order of the source; `--help` ends the loop, and an argument that starts with
`--` is no value. -/
def cliOptions (build : CliBuild) : CommandLine (List UInt8) CliState (List UInt8) where
  options := displayOptions ++ captureOptions build ++ payloadOptions build ++ appOptions ++
    reassemblyOptions
  stop := ascii "--help"
  isOption := fun argument => (ascii "--").isPrefixOf argument
  unknown := failWithError (ascii "unknown option.")

/-! ### Checks -/

/-- What `cli_parse_args` returns: 0 with a configuration, 0 behind the usage text of `--help`, or 1
behind an error. -/
inductive CliOutcome where
  | parsed (config : MiniSnifferConfig)
  | help (config : MiniSnifferConfig)
  | failed (line : List UInt8)
deriving DecidableEq, Repr

/-- Division of sizes; by zero it has no result. -/
def divideSize (dividend : Nat) : Nat → Option Nat
  | 0 => none
  | divisor => some (dividend / divisor)

def anyAppFilter (config : AppConfig) : Bool :=
  config.filterAppEnabled || config.filterHttpHostEnabled || config.filterHttpMethodEnabled ||
    config.filterDnsQueryEnabled || config.filterDnsTypeEnabled || config.filterTlsSniEnabled ||
    config.filterTlsAlpnEnabled || config.filterDhcpTypeEnabled ||
    config.filterQuicVersionEnabled

/-- The last of the size checks; it divides only when reassembly is on. -/
def exceedsAggregate (config : AppConfig) : Option Bool :=
  if config.reassemble then
    (divideSize (minisnifferMaxTotalReassemblyBytes / 4) config.streamBufferBytes).map
      fun limit => config.maxFlows > limit
  else some false

def checkSettings (state : CliState) : Option CliOutcome :=
  let config := state.config
  if config.reassemble && !config.decodeApp then
    some (.failed (failWithError (ascii "--reassemble requires --decode-app.")))
  else if !config.reassemble &&
      (state.maxFlowsWasSet || state.streamBufferWasSet || state.flowTimeoutWasSet) then
    some (.failed (failWithError
      (ascii "stream buffer and flow table settings require --reassemble.")))
  else if config.reassemble && config.maxFlows > minisnifferMaxFlows then
    some (.failed (failWithError (ascii "--max-flows exceeds the supported safety limit.")))
  else if config.reassemble && config.streamBufferBytes > minisnifferMaxStreamBufferBytes then
    some (.failed (failWithError
      (ascii "--stream-buffer-bytes exceeds the supported safety limit.")))
  else
    match exceedsAggregate config.toAppConfig with
    | none => none
    | some true =>
        some (.failed (failWithError
          (ascii "requested flow buffers exceed the aggregate memory limit.")))
    | some false =>
        if !config.decodeApp && anyAppFilter config.toAppConfig then
          some (.failed (failWithError (ascii "app filters require --decode-app.")))
        else some (.parsed config)

/-- `none` is a division by zero. -/
def cliParseArgs (build : CliBuild) (arguments : List (List UInt8)) (config : MiniSnifferConfig) :
    Option CliOutcome :=
  match (cliOptions build).read arguments { config := config } with
  | .failed line => some (.failed line)
  | .stopped state => some (.help state.config)
  | .finished state => checkSettings state

end MiniSniffer
