import LoginGate.Text.RangeTable

/-!
# Letters that differ in case

`caseForms c` are the other characters that differ from `c` only in case.  Nearly all characters
have one such form or none; the few that have more are listed.
-/

namespace LoginGate.Text

/-- Ranges whose characters have their other form in the range of the same length that starts at
the value. -/
def shiftedForms : RangeMap := .ofLines [
  "41-4A:61 4C-52:6C 54-5A:74 61-6A:41 6C-72:4C 74-7A:54 C0-C4:E0 C6-D6:E6 D8-DE:F8 DF:1E9E",
  "E0-E4:C0 E6-F6:C6 F8-FE:D8 FF:178 178:FF 180:243 181:253 186:254 189-18A:256 18E:1DD 18F:259",
  "190:25B 193:260 194:263 195:1F6 196:269 197:268 19A:23D 19B:A7DC 19C:26F 19D:272 19E:220",
  "19F:275 1A6:280 1A9:283 1AE:288 1B1-1B2:28A 1B7:292 1BF:1F7 1DD:18E 1F6:195 1F7:1BF 220:19E",
  "23A:2C65 23D:19A 23E:2C66 23F-240:2C7E 243:180 244:289 245:28C 250:2C6F 251:2C6D 252:2C70",
  "253:181 254:186 256-257:189 259:18F 25B:190 25C:A7AB 260:193 261:A7AC 263:194 264:A7CB",
  "265:A78D 266:A7AA 268:197 269:196 26A:A7AE 26B:2C62 26C:A7AD 26F:19C 271:2C6E 272:19D",
  "275:19F 27D:2C64 280:1A6 282:A7C5 283:1A9 287:A7B1 288:1AE 289:244 28A-28B:1B1 28C:245",
  "292:1B7 29D:A7B2 29E:A7B0 37B-37D:3FD 37F:3F3 386:3AC 388-38A:3AD 38C:3CC 38E-38F:3CD",
  "391:3B1 393-394:3B3 396-397:3B6 39B:3BB 39D-39F:3BD 3A4-3A5:3C4 3A7-3A8:3C7 3AA-3AB:3CA",
  "3AC:386 3AD-3AF:388 3B1:391 3B3-3B4:393 3B6-3B7:396 3BB:39B 3BD-3BF:39D 3C4-3C5:3A4",
  "3C7-3C8:3A7 3CA-3CB:3AA 3CC:38C 3CD-3CE:38E 3CF:3D7 3D7:3CF 3F2:3F9 3F3:37F 3F9:3F2",
  "3FD-3FF:37B 400-40F:450 410-411:430 413:433 415-41D:435 41F-420:43F 423-429:443 42B-42F:44B",
  "430-431:410 433:413 435-43D:415 43F-440:41F 443-449:423 44B-44F:42B 450-45F:400 4C0:4CF",
  "4CF:4C0 531-556:561 561-586:531 10A0-10C5:2D00 10C7:2D27 10CD:2D2D 10D0-10FA:1C90",
  "10FD-10FF:1CBD 13A0-13EF:AB70 13F0-13F5:13F8 13F8-13FD:13F0 1C90-1CBA:10D0 1CBD-1CBF:10FD",
  "1D79:A77D 1D7D:2C63 1D8E:A7C6 1E9E:DF 1F00-1F07:1F08 1F08-1F0F:1F00 1F10-1F15:1F18",
  "1F18-1F1D:1F10 1F20-1F27:1F28 1F28-1F2F:1F20 1F30-1F37:1F38 1F38-1F3F:1F30 1F40-1F45:1F48",
  "1F48-1F4D:1F40 1F51:1F59 1F53:1F5B 1F55:1F5D 1F57:1F5F 1F59:1F51 1F5B:1F53 1F5D:1F55",
  "1F5F:1F57 1F60-1F67:1F68 1F68-1F6F:1F60 1F70-1F71:1FBA 1F72-1F75:1FC8 1F76-1F77:1FDA",
  "1F78-1F79:1FF8 1F7A-1F7B:1FEA 1F7C-1F7D:1FFA 1F80-1F87:1F88 1F88-1F8F:1F80 1F90-1F97:1F98",
  "1F98-1F9F:1F90 1FA0-1FA7:1FA8 1FA8-1FAF:1FA0 1FB0-1FB1:1FB8 1FB3:1FBC 1FB8-1FB9:1FB0",
  "1FBA-1FBB:1F70 1FBC:1FB3 1FC3:1FCC 1FC8-1FCB:1F72 1FCC:1FC3 1FD0-1FD1:1FD8 1FD8-1FD9:1FD0",
  "1FDA-1FDB:1F76 1FE0-1FE1:1FE8 1FE5:1FEC 1FE8-1FE9:1FE0 1FEA-1FEB:1F7A 1FEC:1FE5 1FF3:1FFC",
  "1FF8-1FF9:1F78 1FFA-1FFB:1F7C 1FFC:1FF3 2132:214E 214E:2132 2160-216F:2170 2170-217F:2160",
  "24B6-24CF:24D0 24D0-24E9:24B6 2C00-2C2F:2C30 2C30-2C5F:2C00 2C62:26B 2C63:1D7D 2C64:27D",
  "2C65:23A 2C66:23E 2C6D:251 2C6E:271 2C6F:250 2C70:252 2C7E-2C7F:23F 2D00-2D25:10A0 2D27:10C7",
  "2D2D:10CD A77D:1D79 A78D:265 A794:A7C4 A7AA:266 A7AB:25C A7AC:261 A7AD:26C A7AE:26A A7B0:29E",
  "A7B1:287 A7B2:29D A7B3:AB53 A7C4:A794 A7C5:282 A7C6:1D8E A7CB:264 A7DC:19B AB53:A7B3",
  "AB70-ABBF:13A0 FF21-FF3A:FF41 FF41-FF5A:FF21 10400-10427:10428 10428-1044F:10400",
  "104B0-104D3:104D8 104D8-104FB:104B0 10570-1057A:10597 1057C-1058A:105A3 1058C-10592:105B3",
  "10594-10595:105BB 10597-105A1:10570 105A3-105B1:1057C 105B3-105B9:1058C 105BB-105BC:10594",
  "10C80-10CB2:10CC0 10CC0-10CF2:10C80 10D50-10D65:10D70 10D70-10D85:10D50 118A0-118BF:118C0",
  "118C0-118DF:118A0 16E40-16E5F:16E60 16E60-16E7F:16E40 16EA0-16EB8:16EBB 16EBB-16ED3:16EA0",
  "1E900-1E921:1E922 1E922-1E943:1E900"]

/-- Ranges in which every two neighbours, from the first on, are forms of each other. -/
def adjacentForms : RangeMap := .ofLines [
  "100-12F:0 132-137:0 139-148:0 14A-177:0 179-17E:0 182-185:0 187-188:0 18B-18C:0 191-192:0",
  "198-199:0 1A0-1A5:0 1A7-1A8:0 1AC-1AD:0 1AF-1B0:0 1B3-1B6:0 1B8-1B9:0 1BC-1BD:0 1CD-1DC:0",
  "1DE-1EF:0 1F4-1F5:0 1F8-21F:0 222-233:0 23B-23C:0 241-242:0 246-24F:0 370-373:0 376-377:0",
  "3D8-3EF:0 3F7-3F8:0 3FA-3FB:0 460-461:0 464-481:0 48A-4BF:0 4C1-4CE:0 4D0-52F:0 1C89-1C8A:0",
  "1E00-1E5F:0 1E62-1E95:0 1EA0-1EFF:0 2183-2184:0 2C60-2C61:0 2C67-2C6C:0 2C72-2C73:0",
  "2C75-2C76:0 2C80-2CE3:0 2CEB-2CEE:0 2CF2-2CF3:0 A640-A649:0 A64C-A66D:0 A680-A69B:0",
  "A722-A72F:0 A732-A76F:0 A779-A77C:0 A77E-A787:0 A78B-A78C:0 A790-A793:0 A796-A7A9:0",
  "A7B4-A7C3:0 A7C7-A7CA:0 A7CC-A7DB:0 A7F5-A7F6:0"]

/-- Characters with more than two forms. -/
def largerFamilies : List (List Nat) := [
  [0x4B, 0x6B, 0x212A],
  [0x53, 0x73, 0x17F],
  [0xB5, 0x39C, 0x3BC],
  [0xC5, 0xE5, 0x212B],
  [0x1C4, 0x1C5, 0x1C6],
  [0x1C7, 0x1C8, 0x1C9],
  [0x1CA, 0x1CB, 0x1CC],
  [0x1F1, 0x1F2, 0x1F3],
  [0x345, 0x399, 0x3B9, 0x1FBE],
  [0x392, 0x3B2, 0x3D0],
  [0x395, 0x3B5, 0x3F5],
  [0x398, 0x3B8, 0x3D1, 0x3F4],
  [0x39A, 0x3BA, 0x3F0],
  [0x3A0, 0x3C0, 0x3D6],
  [0x3A1, 0x3C1, 0x3F1],
  [0x3A3, 0x3C2, 0x3C3],
  [0x3A6, 0x3C6, 0x3D5],
  [0x3A9, 0x3C9, 0x2126],
  [0x412, 0x432, 0x1C80],
  [0x414, 0x434, 0x1C81],
  [0x41E, 0x43E, 0x1C82],
  [0x421, 0x441, 0x1C83],
  [0x422, 0x442, 0x1C84, 0x1C85],
  [0x42A, 0x44A, 0x1C86],
  [0x462, 0x463, 0x1C87],
  [0x1C88, 0xA64A, 0xA64B],
  [0x1E60, 0x1E61, 0x1E9B]]

/-- The other characters that differ from a character only in case. -/
def caseForms (c : Char) : List Char :=
  let n := c.toNat
  match largerFamilies.find? (·.contains n) with
  | some family => (family.filter (· != n)).map Char.ofNat
  | none => match shiftedForms.find? c with
    | some { low, values := [target], .. } => [Char.ofNat (target + (n - low))]
    | _ => match adjacentForms.find? c with
      | some { low, .. } => [Char.ofNat (if (n - low) % 2 = 0 then n + 1 else n - 1)]
      | none => []

end LoginGate.Text
