import AgentLedger.Text.Category
/-!
# Letters and digits

The letters, digits and other numerals of all scripts, and the signs that
scripts write vowels with.
-/

namespace AgentLedger.Text

/-- Letters and numerals beyond ASCII. A span may run over unassigned code points. -/
def lettersAndDigits : Table := .ofLines [
  "AA B2-B3 B5 B9-BA BC-BE C0-D6 D8-F6 F8-2C1 2C6-2D1 2E0-2E4 2EC 2EE 345 363-374 376-37D 37F 386 388-3F5",
  "3F7-481 48A-559 560-588 5B0-5BD 5BF 5C1-5C2 5C4-5C5 5C7-5F2 610-61A 620-657 659-669 66E-6D3 6D5-6DC 6E1-6E8",
  "6ED-6FC 6FF 710-73F 74D-7EA 7F4-7F5 7FA 800-817 81A-82C 840-858 860-887 889-88F 897 8A0-8C9 8D4-8DF 8E3-8E9",
  "8F0-93B 93D-94C 94E-950 955-963 966-96F 971-9B9 9BD-9CC 9CE-9F1 9F4-9F9 9FC A01-A39 A3E-A4C A51-A75 A81-AB9",
  "ABD-ACC AD0-AEF AF9-AFC B01-B39 B3D-B4C B56-B6F B71-BCC BD0-BF2 C00-C39 C3D-C4C C55-C6F C78-C7E C80-C83",
  "C85-CB9 CBD-CCC CD5-D3A D3D-D4C D4E D54-D78 D7A-DC6 DCF-DF3 E01-E3A E40-E46 E4D E50-E59 E81-EB9 EBB-EC6 ECD",
  "ED0-F00 F20-F33 F40-F83 F88-FBC 1000-1036 1038 103B-1049 1050-109D 10A0-10FA 10FC-135A 1369-138F 13A0-13FD",
  "1401-166C 166F-167F 1681-169A 16A0-16EA 16EE-1713 171F-1733 1740-17B3 17B6-17C8 17D7 17DC 17E0-17F9",
  "1810-1938 1946-19DA 1A00-1A1B 1A20-1A5E 1A61-1A74 1A80-1A99 1AA7 1ABF-1AC0 1ACC-1ACE 1B00-1B33 1B35-1B43",
  "1B45-1B4C 1B50-1B59 1B80-1BA9 1BAC-1BE5 1BE7-1BF1 1C00-1C36 1C40-1C7D 1C80-1CBF 1CE9-1CEC 1CEE-1CF3",
  "1CF5-1CF6 1CFA-1DBF 1DD3-1DF4 1E00-1FBC 1FBE 1FC2-1FCC 1FD0-1FDB 1FE0-1FEC 1FF2-1FFC 2070-2079 207F-2089",
  "2090-209C 2102 2107 210A-2113 2115 2119-211D 2124 2126 2128 212A-212D 212F-2139 213C-213F 2145-2149 214E",
  "2150-2189 2460-249B 24B6-24FF 2776-2793 2C00-2CE4 2CEB-2CEE 2CF2-2CF3 2CFD 2D00-2D6F 2D80-2DFF 2E2F",
  "3005-3007 3021-3029 3031-3035 3038-303C 3041-3096 309D-309F 30A1-30FA 30FC-318E 3192-3195 31A0-31BF",
  "31F0-31FF 3220-3229 3248-324F 3251-325F 3280-3289 32B1-32BF 3400-4DBF 4E00-A48C A4D0-A4FD A500-A60C",
  "A610-A66E A674-A67B A67F-A6EF A717-A71F A722-A788 A78B-A805 A807-A827 A830-A835 A840-A873 A880-A8C3 A8C5",
  "A8D0-A8D9 A8F2-A8F7 A8FB A8FD-A92A A930-A952 A960-A9B2 A9B4-A9BF A9CF-A9D9 A9E0-AA59 AA60-AA76 AA7A-AABE",
  "AAC0 AAC2-AADD AAE0-AAEF AAF2-AAF5 AB01-AB5A AB5C-AB69 AB70-ABEA ABF0-FB28 FB2A-FBB1 FBD3-FD3D FD50-FD8F",
  "FD92-FDC7 FDF0-FDFB FE70-FEFC FF10-FF19 FF21-FF3A FF41-FF5A FF66-FFDC 10000-100FA 10107-10133 10140-10178",
  "1018A-1018B 10280-102D0 102E1-1039D 103A0-103CF 103D1-10563 10570-10855 10858-10876 10879-1091B 10920-10939",
  "10940-10A35 10A40-10A48 10A60-10A7E 10A80-10AC7 10AC9-10AE4 10AEB-10AEF 10B00-10B35 10B40-10B91 10BA9-10D69",
  "10D6F-10D85 10E60-10EAC 10EB0-10EC7 10EFA-10EFC 10F00-10F45 10F51-10F54 10F70-10F81 10FB0-11045 11052-1106F",
  "11071-11075 11080-110B8 110C2 110D0-11132 11136-1113F 11144-11172 11176-111BF 111C1-111C4 111CE-111DA 111DC",
  "111E1-11234 11237 1123E-112A8 112B0-112E8 112F0-11339 1133D-1134C 11350-11363 11380-113CD 113D1 113D3",
  "11400-11441 11443-11445 11447-1144A 11450-11459 1145F-114C1 114C4-114C5 114C7-115BE 115D8-1163E 11640",
  "11644-11659 11680-116B5 116B8 116C0-1172A 11730-1173B 11740-11838 118A0-1193C 1193F-11942 11950-119DF 119E1",
  "119E3-11A32 11A35-11A3E 11A50-11A97 11A9D 11AB0-11AF8 11B60-11BE0 11BF0-11C3E 11C40 11C50-11C6C 11C72-11D41",
  "11D43 11D46-11D96 11D98-11EF6 11F00-11F40 11F50-11F59 11FB0-11FD4 12000-1246E 12480-12FF0 13000-1342F",
  "13441-13446 13460-1612E 16130-16A69 16A70-16AED 16B00-16B2F 16B40-16B43 16B50-16D6C 16D70-16E96 16EA0-16FE1",
  "16FE3 16FF0-1BC99 1BC9E 1CCF0-1CCF9 1D2C0-1D2F3 1D360-1D6C0 1D6C2-1D6DA 1D6DC-1D6FA 1D6FC-1D714 1D716-1D734",
  "1D736-1D74E 1D750-1D76E 1D770-1D788 1D78A-1D7A8 1D7AA-1D7C2 1D7C4-1D7FF 1DF00-1E12C 1E137-1E14E 1E290-1E2AD",
  "1E2C0-1E2EB 1E2F0-1E2F9 1E4D0-1E4EB 1E4F0-1E5ED 1E5F0-1E5FA 1E6C0-1E8CF 1E900-1E943 1E947 1E94B-1E959",
  "1EC71-1ECAB 1ECAD-1ECAF 1ECB1-1ED2D 1ED2F-1EEBB 1F100-1F10C 1F130-1F149 1F150-1F169 1F170-1F189 1FBF0-1FBF9",
  "20000-33479"]

def isLetterOrDigit (c : Char) : Bool :=
  if c.toNat < 0x80 then c.isAlphanum else lettersAndDigits.has c && !isUnassigned c

end AgentLedger.Text
