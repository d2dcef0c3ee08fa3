/-!
# Joining of letters

On which sides a letter joins its neighbours: `L`, `R`, or `D` for both. `T` is
transparent: its neighbours join across it.
-/

namespace Sinkhole
namespace Idna

/-- How letters join. -/
def joiningRows : String := "
0300-036F:T 0483-0489:T 0591-05BD:T 05BF:T 05C1-05C2:T 05C4-05C5:T 05C7:T 0610-061A:T 0620:D
0622-0625:R 0626:D 0627:R 0628:D 0629:R 062A-062E:D 062F-0632:R 0633-063F:D 0641-0647:D 0648:R
0649-064A:D 064B-065F:T 066E-066F:D 0670:T 0671-0673:R 0679-0687:D 0688-0699:R 069A-06BF:D
06C0:R 06C1-06C2:D 06C3-06CB:R 06CC:D 06CD:R 06CE:D 06CF:R 06D0-06D1:D 06D2-06D3:R 06D5:R
06D6-06DC:T 06DF-06E4:T 06E7-06E8:T 06EA-06ED:T 06EE-06EF:R 06FA-06FC:D 06FF:D 0710:R 0711:T
0712-0714:D 0715-0719:R 071A-071D:D 071E:R 071F-0727:D 0728:R 0729:D 072A:R 072B:D 072C:R
072D-072E:D 072F:R 0730-074A:T 074D:R 074E-0758:D 0759-075B:R 075C-076A:D 076B-076C:R
076D-0770:D 0771:R 0772:D 0773-0774:R 0775-0777:D 0778-0779:R 077A-077F:D 07A6-07B0:T
07CA-07EA:D 07EB-07F3:T 07FD:T 0816-0819:T 081B-0823:T 0825-0827:T 0829-082D:T 0840:R
0841-0845:D 0846-0847:R 0848:D 0849:R 084A-0853:D 0854:R 0855:D 0856-0858:R 0859-085B:T 0860:D
0862-0865:D 0867:R 0868:D 0869-0882:R 0886:D 0889-088D:D 088E:R 088F:D 0897-089F:T 08A0-08A9:D
08AA-08AC:R 08AE:R 08AF-08B0:D 08B1-08B2:R 08B3-08B8:D 08B9:R 08BA-08C8:D 08CA-0902:T 093A:T
093C:T 0941-0948:T 094D:T 0951-0957:T 0962-0963:T 0981:T 09BC:T 09C1-09C4:T 09CD:T 09E2-09E3:T
09FE-0A02:T 0A3C:T 0A41-0A51:T 0A70-0A71:T 0A75:T 0A81-0A82:T 0ABC:T 0AC1-0AC8:T 0ACD:T
0AE2-0AE3:T 0AFA-0B01:T 0B3C:T 0B3F:T 0B41-0B44:T 0B4D-0B56:T 0B62-0B63:T 0B82:T 0BC0:T 0BCD:T
0C00:T 0C04:T 0C3C:T 0C3E-0C40:T 0C46-0C56:T 0C62-0C63:T 0C81:T 0CBC:T 0CBF:T 0CC6:T 0CCC-0CCD:T
0CE2-0CE3:T 0D00-0D01:T 0D3B-0D3C:T 0D41-0D44:T 0D4D:T 0D62-0D63:T 0D81:T 0DCA:T 0DD2-0DD6:T
0E31:T 0E34-0E3A:T 0E47-0E4E:T 0EB1:T 0EB4-0EBC:T 0EC8-0ECE:T 0F18-0F19:T 0F35:T 0F37:T 0F39:T
0F71-0F7E:T 0F80-0F84:T 0F86-0F87:T 0F8D-0FBC:T 0FC6:T 102D-1030:T 1032-1037:T 1039-103A:T
103D-103E:T 1058-1059:T 105E-1060:T 1071-1074:T 1082:T 1085-1086:T 108D:T 109D:T 135D-135F:T
1712-1714:T 1732-1733:T 1752-1753:T 1772-1773:T 17B7-17BD:T 17C6:T 17C9-17D3:T 17DD:T 1807:D
1820-1878:D 1885-1886:T 1887-18A8:D 18A9:T 18AA:D 1920-1922:T 1927-1928:T 1932:T 1939-193B:T
1A17-1A18:T 1A1B:T 1A56:T 1A58-1A60:T 1A62:T 1A65-1A6C:T 1A73-1A7F:T 1AB0-1B03:T 1B34:T
1B36-1B3A:T 1B3C:T 1B42:T 1B6B-1B73:T 1B80-1B81:T 1BA2-1BA5:T 1BA8-1BA9:T 1BAB-1BAD:T 1BE6:T
1BE8-1BE9:T 1BED:T 1BEF-1BF1:T 1C2C-1C33:T 1C36-1C37:T 1CD0-1CD2:T 1CD4-1CE0:T 1CE2-1CE8:T
1CED:T 1CF4:T 1CF8-1CF9:T 1DC0-1DFF:T 20D0-20F0:T 2CEF-2CF1:T 2D7F:T 2DE0-2DFF:T 302A-302D:T
3099-309A:T A66F-A672:T A674-A67D:T A69E-A69F:T A6F0-A6F1:T A802:T A806:T A80B:T A825-A826:T
A82C:T A840-A871:D A872:L A8C4-A8C5:T A8E0-A8F1:T A8FF:T A926-A92D:T A947-A951:T A980-A982:T
A9B3:T A9B6-A9B9:T A9BC-A9BD:T A9E5:T AA29-AA2E:T AA31-AA32:T AA35-AA36:T AA43:T AA4C:T AA7C:T
AAB0:T AAB2-AAB4:T AAB7-AAB8:T AABE-AABF:T AAC1:T AAEC-AAED:T AAF6:T ABE5:T ABE8:T ABED:T FB1E:T
FE20-FE2F:T 101FD:T 102E0:T 10376-1037A:T 10A01-10A0F:T 10A38-10A3F:T 10AC0-10AC4:D 10AC5:R
10AC7:R 10AC9-10ACA:R 10ACD:L 10ACE-10AD2:R 10AD3-10AD6:D 10AD7:L 10AD8-10ADC:D 10ADD:R
10ADE-10AE0:D 10AE1:R 10AE4:R 10AE5-10AE6:T 10AEB-10AEE:D 10AEF:R 10B80:D 10B81:R 10B82:D
10B83-10B85:R 10B86-10B88:D 10B89:R 10B8A-10B8B:D 10B8C:R 10B8D:D 10B8E-10B8F:R 10B90:D 10B91:R
10BA9-10BAC:R 10BAD-10BAE:D 10D00:L 10D01-10D21:D 10D22:R 10D23:D 10D24-10D27:T 10D69-10D6D:T
10EAB-10EAC:T 10EC2:R 10EC3-10EC4:D 10EC6-10EC7:D 10EFA-10EFF:T 10F30-10F32:D 10F33:R
10F34-10F44:D 10F46-10F50:T 10F51-10F53:D 10F54:R 10F70-10F73:D 10F74-10F75:R 10F76-10F81:D
10F82-10F85:T 10FB0:D 10FB2-10FB3:D 10FB4-10FB6:R 10FB8:D 10FB9-10FBA:R 10FBB-10FBC:D 10FBD:R
10FBE-10FBF:D 10FC1:D 10FC2-10FC3:R 10FC4:D 10FC9:R 10FCA:D 10FCB:L 11001:T 11038-11046:T
11070:T 11073-11074:T 1107F-11081:T 110B3-110B6:T 110B9-110BA:T 110C2:T 11100-11102:T
11127-1112B:T 1112D-11134:T 11173:T 11180-11181:T 111B6-111BE:T 111C9-111CC:T 111CF:T
1122F-11231:T 11234:T 11236-11237:T 1123E:T 11241:T 112DF:T 112E3-112EA:T 11300-11301:T
1133B-1133C:T 11340:T 11366-11374:T 113BB-113C0:T 113CE:T 113D0:T 113D2:T 113E1-113E2:T
11438-1143F:T 11442-11444:T 11446:T 1145E:T 114B3-114B8:T 114BA:T 114BF-114C0:T 114C2-114C3:T
115B2-115B5:T 115BC-115BD:T 115BF-115C0:T 115DC-115DD:T 11633-1163A:T 1163D:T 1163F-11640:T
116AB:T 116AD:T 116B0-116B5:T 116B7:T 1171D:T 1171F:T 11722-11725:T 11727-1172B:T 1182F-11837:T
11839-1183A:T 1193B-1193C:T 1193E:T 11943:T 119D4-119DB:T 119E0:T 11A01-11A0A:T 11A33-11A38:T
11A3B-11A3E:T 11A47:T 11A51-11A56:T 11A59-11A5B:T 11A8A-11A96:T 11A98-11A99:T 11B60:T
11B62-11B64:T 11B66:T 11C30-11C3D:T 11C3F:T 11C92-11CA7:T 11CAA-11CB0:T 11CB2-11CB3:T
11CB5-11CB6:T 11D31-11D45:T 11D47:T 11D90-11D91:T 11D95:T 11D97:T 11EF3-11EF4:T 11F00-11F01:T
11F36-11F3A:T 11F40:T 11F42:T 11F5A:T 13440:T 13447-13455:T 1611E-16129:T 1612D-1612F:T
16AF0-16AF4:T 16B30-16B36:T 16F4F:T 16F8F-16F92:T 16FE4:T 1BC9D-1BC9E:T 1CF00-1CF46:T
1D167-1D169:T 1D17B-1D182:T 1D185-1D18B:T 1D1AA-1D1AD:T 1D242-1D244:T 1DA00-1DA36:T
1DA3B-1DA6C:T 1DA75:T 1DA84:T 1DA9B-1DAAF:T 1E000-1E08F:T 1E130-1E136:T 1E2AE:T 1E2EC-1E2EF:T
1E4EC-1E4EF:T 1E5EE-1E5EF:T 1E6E3:T 1E6E6:T 1E6EE-1E6EF:T 1E6F5:T 1E8D0-1E8D6:T 1E922-1E943:D
1E944-1E94B:T"

end Idna
end Sinkhole
