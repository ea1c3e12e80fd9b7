import DeviceAndDisplay.Model.Helpers.Settings

/-! # The territory

`setTerritory` and `getTerritory` of SystemServices with `Territory.txt`. -/

namespace DeviceAndDisplay.SystemServices

open Helpers Storage

/-- The codes of `m_strStandardTerritoryList` between its long runs of blanks, each row with the
number of blanks after it. -/
def standardTerritoryRows : List (List String × ℕ) := [
  (["ABW", "AFG", "AGO", "AIA", "ALA", "ALB", "AND", "ARE", "ARG", "ARM", "ASM", "ATA", "ATF",
    "ATG", "AUS", "AUT", "AZE", "BDI", "BEL", "BEN", "BES", "BFA", "BGD", "BGR", "BHR", "BHS",
    "BIH", "BLM", "BLR", "BLZ", "BMU", "BOL"], 16),
  (["BRA", "BRB", "BRN", "BTN", "BVT", "BWA", "CAF", "CAN", "CCK", "CHE", "CHL", "CHN", "CIV",
    "CMR", "COD", "COG", "COK", "COL", "COM", "CPV", "CRI", "CUB", "Cuba", "CUW", "CXR", "CYM",
    "CYP", "CZE", "DEU", "DJI", "DMA", "DNK", "DOM", "DZA", "ECU", "EGY", "ERI", "ESH",
    "ESP"], 16),
  (["EST", "ETH", "FIN", "FJI", "FLK", "FRA", "FRO", "FSM", "GAB", "GBR", "GEO", "GGY", "GHA",
    "GIB", "GIN", "GLP", "GMB", "GNB", "GNQ", "GRC", "GRD", "GRL", "GTM", "GUF", "GUM", "GUY",
    "HKG", "HMD", "HND", "HRV", "HTI", "HUN", "IDN", "IMN", "IND", "IOT", "IRL", "IRN",
    "IRQ"], 17),
  (["ISL", "ISR", "ITA", "JAM", "JEY", "JOR", "JPN", "KAZ", "KEN", "KGZ", "KHM", "KIR", "KNA",
    "KOR", "KWT", "LAO", "LBN", "LBR", "LBY", "LCA", "LIE", "LKA", "LSO", "LTU", "LUX", "LVA",
    "MAC", "MAF", "MAR", "MCO", "MDA", "MDG", "MDV", "MEX", "MHL", "MKD", "MLI", "MLT",
    "MMR"], 17),
  (["MNE", "MNG", "MNP", "MOZ", "MRT", "MSR", "MTQ", "MUS", "MWI", "MYS", "MYT", "NAM", "NCL",
    "NER", "NFK", "NGA", "NIC", "NIU", "NLD", "NOR", "NPL", "NRU", "NZL", "OMN", "PAK", "PAN",
    "PCN", "PER", "PHL", "PLW", "PNG", "POL", "PRI", "PRK", "PRT", "PRY", "PSE", "PYF",
    "QAT"], 17),
  (["REU", "ROU", "RUS", "RWA", "SAU", "SDN", "SEN", "SGP", "SGS", "SHN", "SJM", "SLB", "SLE",
    "SLV", "SMR", "SOM", "SPM", "SRB", "SSD", "STP", "SUR", "SVK", "SVN", "SWE", "SWZ", "SXM",
    "SYC", "SYR", "TCA", "TCD", "TGO", "THA", "TJK", "TKL", "TKM", "TLS", "TON", "TTO",
    "TUN"], 17),
  (["TUR", "TUV", "TWN", "TZA", "UGA", "UKR", "UMI", "URY", "USA", "UZB", "VAT", "VCT", "VEN",
    "VGB", "VIR", "VNM", "VUT", "WLF", "WSM", "YEM", "ZAF", "ZMB", "ZWE"], 0)]

/-- `m_strStandardTerritoryList`. -/
def standardTerritoryList : Text :=
  standardTerritoryRows.flatMap fun row =>
    [' '].intercalate (row.1.map String.toList) ++ List.replicate row.2 ' '

/-- The test that the setter and the reader make. -/
def isStandardTerritory (territoryStr : Text) : Bool :=
  match find territoryStr standardTerritoryList with
  | none => false
  | some index => territoryStr.length = 3 ∧ index ≤ 1100

/-- On the empty string the loop runs into the terminating zero. -/
def isStrAlphaUpper (strVal : Text) : Bool :=
  strVal ≠ [] ∧ strVal.all fun c => c.isAlpha && c.isUpper

def isRegionValid (regionStr : Text) : Bool :=
  if regionStr.length < 7 then
    -- Without a `-`, both parts are the whole string.
    let pos := find ['-'] regionStr
    let strRegion := regionStr.take (pos.getD regionStr.length)
    if strRegion.length = 2 then
      if isStrAlphaUpper strRegion then
        let strRegion := regionStr.drop (pos.elim 0 (· + 1))
        if 2 ≤ strRegion.length then isStrAlphaUpper strRegion else false
      else
        false
    else
      false
  else
    false

/-! ### The file -/

/-- `"territory"`. -/
def territoryKey : Text := ['t', 'e', 'r', 'r', 'i', 't', 'o', 'r', 'y']

/-- `"region"`. -/
def regionKey : Text := ['r', 'e', 'g', 'i', 'o', 'n']

/-- `getline (inFile, str)`; the stream is `none` once it has met the end of the file, and then
the string stays as it is. -/
def getline (str : Text) : Option Text → Text × Option Text
  | none => (str, none)
  | some rest =>
      match find ['\n'] rest with
      | none => (rest, none)
      | some pos => (rest.take pos, some (rest.drop (pos + 1)))

def safeExtractAfterColon (inputLine : Text) : Text :=
  match find [':'] inputLine with
  | none => []
  | some pos => if pos + 1 < inputLine.length then inputLine.drop (pos + 1) else []

structure Territory where
  territory : Text := []
  region : Text := []
  /-- What is in the file; `none` if it does not exist. -/
  file : Option Text
deriving DecidableEq, Repr

/-- The response of `getTerritory`. -/
structure TerritoryResponse where
  territory : Text
  region : Text
  success : Bool
deriving DecidableEq, Repr

/-- The parameters of `onTerritoryChanged`. -/
structure TerritoryChanged where
  oldTerritory : Text
  newTerritory : Text
  /-- `oldRegion` and `newRegion`. -/
  regions : Option (Text × Text)
deriving DecidableEq, Repr

inductive TerritoryError where
  | invalidTerritoryName
  | invalidTerritory
  | invalidRegion
deriving DecidableEq, Repr

def TerritoryError.message : TerritoryError → String
  | .invalidTerritoryName => "Invalid territory name"
  | .invalidTerritory => "Invalid territory"
  | .invalidRegion => "Invalid region"

/-- The response of `setTerritory` and the event it sends. -/
structure SetTerritoryResponse where
  error : Option TerritoryError := none
  success : Bool := false
  event : Option TerritoryChanged := none
deriving DecidableEq, Repr

namespace Territory

/-- Without an exception, `readTerritoryFromFile` returns `true`. -/
def readTerritoryFromFile (s : Territory) : Territory :=
  match s.file with
  | none => s
  | some text =>
      let (str, inFile) := getline [] (some text)
      if str ≠ [] then
        let territory := safeExtractAfterColon str
        if isStandardTerritory territory then
          let (str, _) := getline str inFile
          if str ≠ [] then
            let region := safeExtractAfterColon str
            if isRegionValid region then
              { s with territory := territory, region := region }
            else
              { s with territory := [], region := [] }
          else
            { s with territory := territory }
        else
          { s with territory := [], region := [] }
      else
        s

/-- What `writeTerritory` puts out. -/
def written (territory region : Text) : Text :=
  (if territory ≠ [] then territoryKey ++ ':' :: (territory ++ ['\n']) else []) ++
    if region ≠ [] then regionKey ++ ':' :: (region ++ ['\n']) else []

/-- `outdata` tells whether the file is opened. -/
def writeTerritory (outdata : Bool) (territory region : Text) (s : Territory) : Bool × Territory :=
  if outdata then
    (territory ≠ [] ∨ region ≠ [], { s with file := some (written territory region) })
  else
    (false, s)

def getTerritory (s : Territory) : TerritoryResponse × Territory :=
  let read := { s with territory := [], region := [] }.readTerritoryFromFile
  (⟨read.territory, read.region, true⟩, read)

def onTerritoryChanged (oldTerritory newTerritory oldRegion newRegion : Text) : TerritoryChanged :=
  ⟨oldTerritory, newTerritory, if newRegion ≠ [] then some (oldRegion, newRegion) else none⟩

/-- Write the pair and send the event if that succeeds. -/
def changeTerritory (outdata : Bool) (territoryStr regionStr : Text) (s : Territory) :
    SetTerritoryResponse × Territory :=
  match s.writeTerritory outdata territoryStr regionStr with
  | (true, t) =>
      (⟨none, true, some (onTerritoryChanged t.territory territoryStr t.region regionStr)⟩, t)
  | (false, t) => ({}, t)

/-- A parameter is `none` if its label is missing. -/
def setTerritory (outdata : Bool) (territory region : Option Text) (s : Territory) :
    SetTerritoryResponse × Territory :=
  match territory with
  | none => ({ error := some .invalidTerritoryName }, s)
  | some territoryStr =>
      let s := s.readTerritoryFromFile
      if isStandardTerritory territoryStr then
        match region with
        | none => s.changeTerritory outdata territoryStr []
        | some regionStr =>
            if regionStr ≠ [] then
              if isRegionValid regionStr then s.changeTerritory outdata territoryStr regionStr
              else ({ error := some .invalidRegion }, s)
            else
              ({}, s)
      else
        ({ error := some .invalidTerritory }, s)

inductive Call where
  | setTerritory (outdata : Bool) (territory region : Option Text)
  | getTerritory
deriving DecidableEq, Repr

def step (s : Territory) : Call → Option Territory
  | .setTerritory outdata territory region => some (s.setTerritory outdata territory region).2
  | .getTerritory => some s.getTerritory.2

end Territory

end DeviceAndDisplay.SystemServices
