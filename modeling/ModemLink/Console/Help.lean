/-!
# Help texts
-/

namespace ModemLink.Help

def programName : String := "usb-modem-driver"

def version : String := "0.1.0"

def about : List String := ["Host-side driver for USB-attached modems"]

def longAbout : List String :=
  ["Drives a USB-attached cellular modem: enumerates the device, resets its",
    "pipes, runs the MUX framing data path and handles power transitions.",
    "",
    "EXAMPLES:",
    "    # Run with default config",
    "    usb-modem-driver",
    "",
    "    # Run with custom config",
    "    usb-modem-driver --config /path/to/driver.toml",
    "",
    "    # List USB devices and exit",
    "    usb-modem-driver --list-devices",
    "",
    "    # Drive a specific device and attach a client immediately",
    "    usb-modem-driver --vid 0x05c6 --pid 0x9025 --open",
    "",
    "CONFIGURATION:",
    "    The driver looks for configuration files in the following order:",
    "    1. Path specified with --config",
    "    2. ~/.config/usb-modem-driver/driver.toml",
    "    3. /etc/usb-modem-driver/driver.toml",
    "    4. Built-in defaults",
    ""]

def options (helpHint : String) : List (String × String) :=
  [("-c, --config <PATH>", "Path to configuration file"),
    ("    --save-config", "Save default configuration to default location and exit"),
    ("    --list-devices", "List USB devices and exit"),
    ("-l, --log-level <LEVEL>", "Log level (trace, debug, info, warn, error)"),
    ("    --vid <VID>", "Vendor ID override (e.g. 0x05c6)"),
    ("    --pid <PID>", "Product ID override (e.g. 0x9025)"),
    ("    --open", "Attach a client once the device has started"),
    ("-h, --help", "Print help (see " ++ helpHint ++ ")"),
    ("-V, --version", "Print version")]

def usage : List String := ["", "Usage: usb-modem-driver [OPTIONS]"]

/-- Explanations start two columns after the longest option. -/
def shortText : List String :=
  let table := options "more with '--help'"
  let width := (table.map (·.1.length)).foldl Nat.max 0
  about ++ usage ++ ["", "Options:"] ++ table.map fun (option, explanation) =>
    "  " ++ option ++ String.ofList (List.replicate (width + 2 - option.length) ' ') ++ explanation

/-- Each explanation stands below its option. -/
def longText : List String :=
  let entries := (options "a summary with '-h'").map fun (option, explanation) =>
    ["  " ++ option, "          " ++ explanation]
  longAbout ++ usage ++ ["", "Options:"] ++ [""].intercalate entries

def versionText : List String := [programName ++ " " ++ version]

def invalidText : String :=
  "error: invalid arguments\n\nUsage: usb-modem-driver [OPTIONS]\n\nFor more information, try '--help'.\n"

end ModemLink.Help
