import RecordStore.Text.CharSet

/-!
# Ages

The age of a character is the version of the character database that first has it. A version is written without
the point, so that `11` is the first one and `160` the last one here.
-/

namespace RecordStore
namespace Text
namespace Age

/-- The first code point and the age of each run of one age; a hyphen stands for none. -/
def runText : String :=
"0:11 1F6:30 1FA:11 218:30 220:32 221:40 222:30 234:40 237:41 242:50 250:11 2A9:30 2AE:40 2B0:11 2DF:30 2E0:11
2EA:30 2EF:40 300:11 346:30 34F:32 350:40 358:41 35D:40 360:11 362:30 363:32 370:51 374:11 376:51 378:- 37A:11
37B:50 37E:11 37F:70 380:- 384:11 38B:- 38C:11 38D:- 38E:11 3A2:- 3A3:11 3CF:51 3D0:11 3D7:30 3D8:32 3DA:11
3DB:30 3DC:11 3DD:30 3DE:11 3DF:30 3E0:11 3E1:30 3E2:11 3F4:31 3F6:32 3F7:40 3FC:41 400:30 401:11 40D:30 40E:11
450:30 451:11 45D:30 45E:11 487:51 488:30 48A:32 48C:30 490:11 4C5:32 4C7:11 4C9:32 4CB:11 4CD:32 4CF:50 4D0:11
4EC:30 4EE:11 4F6:41 4F8:11 4FA:50 500:32 510:50 514:51 524:52 526:60 528:70 530:- 531:11 557:- 559:11 560:110
561:11 588:110 589:11 58A:30 58B:- 58D:70 58F:61 590:- 591:20 5A2:41 5A3:20 5B0:11 5BA:50 5BB:11 5C4:20 5C5:41
5C8:- 5D0:11 5EB:- 5EF:110 5F0:11 5F5:- 600:40 604:61 605:70 606:51 60B:41 60C:11 60D:40 616:51 61B:11 61C:63
61D:140 61E:41 61F:11 620:60 621:11 63B:51 640:11 653:30 656:40 659:41 65F:60 660:11 66E:32 670:11 6B8:30 6BA:11
6BF:30 6C0:11 6CF:30 6D0:11 6EE:40 6F0:11 6FA:30 6FF:40 700:30 70E:- 70F:30 72D:40 730:30 74B:- 74D:40 750:41
76E:51 780:30 7B1:32 7B2:- 7C0:50 7FB:- 7FD:110 800:52 82E:- 830:52 83F:- 840:60 85C:- 85E:60 85F:- 860:100
86B:- 870:140 88F:- 890:140 892:- 897:160 898:140 8A0:61 8A1:70 8A2:61 8AD:70 8B3:80 8B5:140 8B6:90 8BE:130
8C8:140 8D3:110 8D4:90 8E3:80 8E4:61 8FF:70 900:52 901:11 904:40 905:11 93A:60 93C:11 94E:52 94F:60 950:11
955:52 956:60 958:11 971:51 973:60 978:70 979:52 97B:50 97D:41 97E:50 980:70 981:11 984:- 985:11 98D:- 98F:11
991:- 993:11 9A9:- 9AA:11 9B1:- 9B2:11 9B3:- 9B6:11 9BA:- 9BC:11 9BD:40 9BE:11 9C5:- 9C7:11 9C9:- 9CB:11 9CE:41
9CF:- 9D7:11 9D8:- 9DC:11 9DE:- 9DF:11 9E4:- 9E6:11 9FB:52 9FC:100 9FE:110 9FF:- A01:40 A02:11 A03:40 A04:-
A05:11 A0B:- A0F:11 A11:- A13:11 A29:- A2A:11 A31:- A32:11 A34:- A35:11 A37:- A38:11 A3A:- A3C:11 A3D:- A3E:11
A43:- A47:11 A49:- A4B:11 A4E:- A51:51 A52:- A59:11 A5D:- A5E:11 A5F:- A66:11 A75:51 A76:110 A77:- A81:11 A84:-
A85:11 A8C:40 A8D:11 A8E:- A8F:11 A92:- A93:11 AA9:- AAA:11 AB1:- AB2:11 AB4:- AB5:11 ABA:- ABC:11 AC6:- AC7:11
ACA:- ACB:11 ACE:- AD0:11 AD1:- AE0:11 AE1:40 AE4:- AE6:11 AF0:61 AF1:40 AF2:- AF9:80 AFA:100 B00:- B01:11 B04:-
B05:11 B0D:- B0F:11 B11:- B13:11 B29:- B2A:11 B31:- B32:11 B34:- B35:40 B36:11 B3A:- B3C:11 B44:51 B45:- B47:11
B49:- B4B:11 B4E:- B55:130 B56:11 B58:- B5C:11 B5E:- B5F:11 B62:51 B64:- B66:11 B71:40 B72:60 B78:- B82:11 B84:-
B85:11 B8B:- B8E:11 B91:- B92:11 B96:- B99:11 B9B:- B9C:11 B9D:- B9E:11 BA0:- BA3:11 BA5:- BA8:11 BAB:- BAE:11
BB6:41 BB7:11 BBA:- BBE:11 BC3:- BC6:11 BC9:- BCA:11 BCE:- BD0:51 BD1:- BD7:11 BD8:- BE6:41 BE7:11 BF3:40 BFB:-
C00:70 C01:11 C04:110 C05:11 C0D:- C0E:11 C11:- C12:11 C29:- C2A:11 C34:70 C35:11 C3A:- C3C:140 C3D:51 C3E:11
C45:- C46:11 C49:- C4A:11 C4E:- C55:11 C57:- C58:51 C5A:80 C5B:- C5D:140 C5E:- C60:11 C62:51 C64:- C66:11 C70:-
C77:120 C78:51 C80:90 C81:70 C82:11 C84:110 C85:11 C8D:- C8E:11 C91:- C92:11 CA9:- CAA:11 CB4:- CB5:11 CBA:-
CBC:40 CBE:11 CC5:- CC6:11 CC9:- CCA:11 CCE:- CD5:11 CD7:- CDD:140 CDE:11 CDF:- CE0:11 CE2:50 CE4:- CE6:11 CF0:-
CF1:50 CF3:150 CF4:- D00:100 D01:70 D02:11 D04:130 D05:11 D0D:- D0E:11 D11:- D12:11 D29:60 D2A:11 D3A:60 D3B:100
D3D:51 D3E:11 D44:51 D45:- D46:11 D49:- D4A:11 D4E:60 D4F:90 D50:- D54:90 D57:11 D58:90 D5F:80 D60:11 D62:51
D64:- D66:11 D70:51 D76:90 D79:51 D80:- D81:130 D82:30 D84:- D85:30 D97:- D9A:30 DB2:- DB3:30 DBC:- DBD:30 DBE:-
DC0:30 DC7:- DCA:30 DCB:- DCF:30 DD5:- DD6:30 DD7:- DD8:30 DE0:- DE6:70 DF0:- DF2:30 DF5:- E01:11 E3B:- E3F:11
E5C:- E81:11 E83:- E84:11 E85:- E86:120 E87:11 E89:120 E8A:11 E8B:- E8C:120 E8D:11 E8E:120 E94:11 E98:120 E99:11
EA0:120 EA1:11 EA4:- EA5:11 EA6:- EA7:11 EA8:120 EAA:11 EAC:120 EAD:11 EBA:120 EBB:11 EBE:- EC0:11 EC5:- EC6:11
EC7:- EC8:11 ECE:150 ECF:- ED0:11 EDA:- EDC:11 EDE:61 EE0:- F00:20 F48:- F49:20 F6A:30 F6B:51 F6D:- F71:20
F8C:60 F90:20 F96:30 F97:20 F98:- F99:20 FAE:30 FB1:20 FB8:30 FB9:20 FBA:30 FBD:- FBE:30 FCD:- FCE:51 FCF:30
FD0:41 FD2:51 FD5:52 FD9:60 FDB:- 1000:30 1022:51 1023:30 1028:51 1029:30 102B:51 102C:30 1033:51 1036:30
103A:51 1040:30 105A:51 109A:52 109E:51 10A0:11 10C6:- 10C7:61 10C8:- 10CD:61 10CE:- 10D0:11 10F7:32 10F9:41
10FB:11 10FC:41 10FD:61 1100:11 115A:52 115F:11 11A3:52 11A8:11 11FA:52 1200:30 1207:41 1208:30 1247:41 1248:30
1249:- 124A:30 124E:- 1250:30 1257:- 1258:30 1259:- 125A:30 125E:- 1260:30 1287:41 1288:30 1289:- 128A:30 128E:-
1290:30 12AF:41 12B0:30 12B1:- 12B2:30 12B6:- 12B8:30 12BF:- 12C0:30 12C1:- 12C2:30 12C6:- 12C8:30 12CF:41
12D0:30 12D7:- 12D8:30 12EF:41 12F0:30 130F:41 1310:30 1311:- 1312:30 1316:- 1318:30 131F:41 1320:30 1347:41
1348:30 135B:- 135D:60 135F:41 1361:30 137D:- 1380:41 139A:- 13A0:30 13F5:80 13F6:- 13F8:80 13FE:- 1400:52
1401:30 1677:52 1680:30 169D:- 16A0:30 16F1:70 16F9:- 1700:32 170D:140 170E:32 1715:140 1716:- 171F:140 1720:32
1737:- 1740:32 1754:- 1760:32 176D:- 176E:32 1771:- 1772:32 1774:- 1780:30 17DD:40 17DE:- 17E0:30 17EA:- 17F0:40
17FA:- 1800:30 180F:140 1810:30 181A:- 1820:30 1878:110 1879:- 1880:30 18AA:51 18AB:- 18B0:52 18F6:- 1900:40
191D:70 191F:- 1920:40 192C:- 1930:40 193C:- 1940:40 1941:- 1944:40 196E:- 1970:40 1975:- 1980:41 19AA:52 19AC:-
19B0:41 19CA:- 19D0:41 19DA:52 19DB:- 19DE:41 19E0:40 1A00:41 1A1C:- 1A1E:41 1A20:52 1A5F:- 1A60:52 1A7D:-
1A7F:52 1A8A:- 1A90:52 1A9A:- 1AA0:52 1AAE:- 1AB0:70 1ABF:130 1AC1:140 1ACF:- 1B00:50 1B4C:140 1B4D:- 1B4E:160
1B50:50 1B7D:140 1B7F:160 1B80:51 1BAB:61 1BAE:51 1BBA:61 1BC0:60 1BF4:- 1BFC:60 1C00:51 1C38:- 1C3B:51 1C4A:-
1C4D:51 1C80:90 1C89:160 1C8B:- 1C90:110 1CBB:- 1CBD:110 1CC0:61 1CC8:- 1CD0:52 1CF3:61 1CF7:100 1CF8:70
1CFA:120 1CFB:- 1D00:40 1D6C:41 1DC4:50 1DCB:51 1DE7:70 1DF6:100 1DFA:140 1DFB:90 1DFC:60 1DFD:52 1DFE:50
1E00:11 1E9B:20 1E9C:51 1EA0:11 1EFA:51 1F00:11 1F16:- 1F18:11 1F1E:- 1F20:11 1F46:- 1F48:11 1F4E:- 1F50:11
1F58:- 1F59:11 1F5A:- 1F5B:11 1F5C:- 1F5D:11 1F5E:- 1F5F:11 1F7E:- 1F80:11 1FB5:- 1FB6:11 1FC5:- 1FC6:11 1FD4:-
1FD6:11 1FDC:- 1FDD:11 1FF0:- 1FF2:11 1FF5:- 1FF6:11 1FFF:- 2000:11 202F:30 2030:11 2047:32 2048:30 204E:32
2053:40 2055:41 2057:32 2058:41 205F:32 2064:51 2065:- 2066:63 206A:11 2071:32 2072:- 2074:11 208F:- 2090:41
2095:60 209D:- 20A0:11 20AB:20 20AC:21 20AD:30 20B0:32 20B2:41 20B6:52 20B9:60 20BA:62 20BB:70 20BE:80 20BF:100
20C0:140 20C1:- 20D0:11 20E2:30 20E4:32 20EB:41 20EC:50 20F0:51 20F1:- 2100:11 2139:30 213B:40 213C:41 213D:32
214C:41 214D:50 214F:51 2150:52 2153:11 2183:30 2184:50 2185:51 2189:52 218A:80 218C:- 2190:11 21EB:30 21F4:32
2200:11 22F2:32 2300:11 2301:30 2302:11 237B:30 237C:32 237D:30 239B:32 23CF:40 23D1:41 23DC:50 23E8:52 23E9:60
23F4:70 23FB:90 23FF:100 2400:11 2425:30 2427:160 242A:- 2440:11 244B:- 2460:11 24EB:32 24FF:40 2500:11 2596:32
25A0:11 25F0:30 25F8:32 2600:11 2614:40 2616:32 2618:41 2619:30 261A:11 2670:30 2672:32 267E:41 2680:32 268A:40
2692:41 269D:51 269E:52 26A0:40 26A2:41 26B2:50 26B3:51 26BD:52 26C0:51 26C4:52 26CE:60 26CF:52 26E2:60 26E3:52
26E4:60 26E8:52 2700:70 2701:11 2705:60 2706:11 270A:60 270C:11 2728:60 2729:11 274C:60 274D:11 274E:60 274F:11
2753:60 2756:11 2757:52 2758:11 275F:60 2761:11 2768:32 2776:11 2795:60 2798:11 27B0:60 27B1:11 27BF:60 27C0:41
27C7:50 27CB:61 27CC:51 27CD:61 27CE:60 27D0:32 27EC:51 27F0:32 2800:30 2900:32 2B00:40 2B0E:41 2B14:50 2B1B:51
2B20:50 2B24:51 2B4D:70 2B50:51 2B55:52 2B5A:70 2B74:- 2B76:70 2B96:- 2B97:130 2B98:70 2BBA:110 2BBD:70 2BC9:120
2BCA:70 2BD2:100 2BD3:110 2BEC:80 2BF0:110 2BFF:120 2C00:41 2C2F:140 2C30:41 2C5F:140 2C60:50 2C6D:51 2C70:52
2C71:51 2C74:50 2C78:51 2C7E:52 2C80:41 2CEB:52 2CF2:61 2CF4:- 2CF9:41 2D26:- 2D27:61 2D28:- 2D2D:61 2D2E:-
2D30:41 2D66:61 2D68:- 2D6F:41 2D70:60 2D71:- 2D7F:60 2D80:41 2D97:- 2DA0:41 2DA7:- 2DA8:41 2DAF:- 2DB0:41
2DB7:- 2DB8:41 2DBF:- 2DC0:41 2DC7:- 2DC8:41 2DCF:- 2DD0:41 2DD7:- 2DD8:41 2DDF:- 2DE0:51 2E00:41 2E18:51
2E1C:41 2E1E:51 2E31:52 2E32:61 2E3C:70 2E43:90 2E45:100 2E4A:110 2E4F:120 2E50:130 2E53:140 2E5E:- 2E80:30
2E9A:- 2E9B:30 2EF4:- 2F00:30 2FD6:- 2FF0:30 2FFC:151 3000:11 3038:30 303B:32 303E:30 303F:11 3040:- 3041:11
3095:32 3097:- 3099:11 309F:32 30A1:11 30FF:32 3100:- 3105:11 312D:51 312E:100 312F:110 3130:- 3131:11 318F:-
3190:11 31A0:30 31B8:60 31BB:130 31C0:41 31D0:51 31E4:160 31E6:- 31EF:151 31F0:32 3200:11 321D:40 321F:- 3220:11
3244:52 3250:40 3251:32 3260:11 327C:40 327E:41 327F:11 32B1:32 32C0:11 32CC:40 32D0:11 32FF:121 3300:11 3377:40
337B:11 33DE:40 33E0:11 33FF:40 3400:30 4DB6:130 4DC0:40 4E00:11 9FA6:41 9FBC:51 9FC4:52 9FCC:61 9FCD:80
9FD6:100 9FEB:110 9FF0:130 9FFD:140 A000:30 A48D:- A490:30 A4A2:32 A4A4:30 A4B4:32 A4B5:30 A4C1:32 A4C2:30
A4C5:32 A4C6:30 A4C7:- A4D0:52 A500:51 A62C:- A640:51 A660:60 A662:51 A674:61 A67C:51 A698:70 A69E:80 A69F:61
A6A0:52 A6F8:- A700:41 A717:50 A71B:51 A720:50 A722:51 A78D:60 A78F:80 A790:60 A792:61 A794:70 A7A0:60 A7AA:61
A7AB:70 A7AE:90 A7AF:110 A7B0:70 A7B2:80 A7B8:110 A7BA:120 A7C0:140 A7C2:120 A7C7:130 A7CB:160 A7CE:- A7D0:140
A7D2:- A7D3:140 A7D4:- A7D5:140 A7DA:160 A7DD:- A7F2:140 A7F5:130 A7F7:70 A7F8:61 A7FA:60 A7FB:51 A800:41
A82C:130 A82D:- A830:52 A83A:- A840:50 A878:- A880:51 A8C5:90 A8C6:- A8CE:51 A8DA:- A8E0:52 A8FC:80 A8FE:110
A900:51 A954:- A95F:51 A960:52 A97D:- A980:52 A9CE:- A9CF:52 A9DA:- A9DE:52 A9E0:70 A9FF:- AA00:51 AA37:-
AA40:51 AA4E:- AA50:51 AA5A:- AA5C:51 AA60:52 AA7C:70 AA80:52 AAC3:- AADB:52 AAE0:61 AAF7:- AB01:60 AB07:-
AB09:60 AB0F:- AB11:60 AB17:- AB20:60 AB27:- AB28:60 AB2F:- AB30:70 AB60:80 AB64:70 AB66:120 AB68:130 AB6C:-
AB70:80 ABC0:52 ABEE:- ABF0:52 ABFA:- AC00:20 D7A4:- D7B0:52 D7C7:- D7CB:52 D7FC:- E000:11 FA2E:61 FA30:32
FA6B:52 FA6E:- FA70:41 FADA:- FB00:11 FB07:- FB13:11 FB18:- FB1D:30 FB1E:11 FB37:- FB38:11 FB3D:- FB3E:11 FB3F:-
FB40:11 FB42:- FB43:11 FB45:- FB46:11 FBB2:60 FBC2:140 FBC3:- FBD3:11 FD40:140 FD50:11 FD90:- FD92:11 FDC8:-
FDCF:140 FDD0:31 FDF0:11 FDFC:32 FDFD:40 FDFE:140 FE00:32 FE10:41 FE1A:- FE20:11 FE24:51 FE27:70 FE2E:80 FE30:11
FE45:32 FE47:40 FE49:11 FE53:- FE54:11 FE67:- FE68:11 FE6C:- FE70:11 FE73:32 FE74:11 FE75:- FE76:11 FEFD:-
FEFF:11 FF00:- FF01:11 FF5F:32 FF61:11 FFBF:- FFC2:11 FFC8:- FFCA:11 FFD0:- FFD2:11 FFD8:- FFDA:11 FFDD:-
FFE0:11 FFE7:- FFE8:11 FFEF:- FFF9:30 FFFC:21 FFFD:11 10000:40 1000C:- 1000D:40 10027:- 10028:40 1003B:-
1003C:40 1003E:- 1003F:40 1004E:- 10050:40 1005E:- 10080:40 100FB:- 10100:40 10103:- 10107:40 10134:- 10137:40
10140:41 1018B:70 1018D:90 1018F:- 10190:51 1019C:130 1019D:- 101A0:70 101A1:- 101D0:51 101FE:- 10280:51 1029D:-
102A0:51 102D1:- 102E0:70 102FC:- 10300:31 1031F:70 10320:31 10324:- 1032D:100 10330:31 1034B:- 10350:70 1037B:-
10380:40 1039E:- 1039F:40 103A0:41 103C4:- 103C8:41 103D6:- 10400:31 10426:40 10428:31 1044E:40 1049E:- 104A0:40
104AA:- 104B0:90 104D4:- 104D8:90 104FC:- 10500:70 10528:- 10530:70 10564:- 1056F:70 10570:140 1057B:- 1057C:140
1058B:- 1058C:140 10593:- 10594:140 10596:- 10597:140 105A2:- 105A3:140 105B2:- 105B3:140 105BA:- 105BB:140
105BD:- 105C0:160 105F4:- 10600:70 10737:- 10740:70 10756:- 10760:70 10768:- 10780:140 10786:- 10787:140 107B1:-
107B2:140 107BB:- 10800:40 10806:- 10808:40 10809:- 1080A:40 10836:- 10837:40 10839:- 1083C:40 1083D:- 1083F:40
10840:52 10856:- 10857:52 10860:70 1089F:- 108A7:70 108B0:- 108E0:80 108F3:- 108F4:80 108F6:- 108FB:80 10900:50
1091A:52 1091C:- 1091F:50 10920:51 1093A:- 1093F:51 10940:- 10980:61 109B8:- 109BC:80 109BE:61 109C0:80 109D0:-
109D2:80 10A00:41 10A04:- 10A05:41 10A07:- 10A0C:41 10A14:- 10A15:41 10A18:- 10A19:41 10A34:110 10A36:- 10A38:41
10A3B:- 10A3F:41 10A48:110 10A49:- 10A50:41 10A59:- 10A60:52 10A80:70 10AA0:- 10AC0:70 10AE7:- 10AEB:70 10AF7:-
10B00:52 10B36:- 10B39:52 10B56:- 10B58:52 10B73:- 10B78:52 10B80:70 10B92:- 10B99:70 10B9D:- 10BA9:70 10BB0:-
10C00:52 10C49:- 10C80:80 10CB3:- 10CC0:80 10CF3:- 10CFA:80 10D00:110 10D28:- 10D30:110 10D3A:- 10D40:160
10D66:- 10D69:160 10D86:- 10D8E:160 10D90:- 10E60:52 10E7F:- 10E80:130 10EAA:- 10EAB:130 10EAE:- 10EB0:130
10EB2:- 10EC2:160 10EC5:- 10EFC:160 10EFD:150 10F00:110 10F28:- 10F30:110 10F5A:- 10F70:140 10F8A:- 10FB0:130
10FCC:- 10FE0:120 10FF7:- 11000:60 1104E:- 11052:60 11070:140 11076:- 1107F:70 11080:52 110C2:140 110C3:-
110CD:110 110CE:- 110D0:61 110E9:- 110F0:61 110FA:- 11100:61 11135:- 11136:61 11144:110 11147:130 11148:-
11150:70 11177:- 11180:61 111C9:80 111CD:70 111CE:130 111D0:61 111DA:70 111DB:80 111E0:- 111E1:70 111F5:-
11200:70 11212:- 11213:70 1123E:90 1123F:150 11242:- 11280:80 11287:- 11288:80 11289:- 1128A:80 1128E:- 1128F:80
1129E:- 1129F:80 112AA:- 112B0:70 112EB:- 112F0:70 112FA:- 11300:80 11301:70 11304:- 11305:70 1130D:- 1130F:70
11311:- 11313:70 11329:- 1132A:70 11331:- 11332:70 11334:- 11335:70 1133A:- 1133B:110 1133C:70 11345:- 11347:70
11349:- 1134B:70 1134E:- 11350:80 11351:- 11357:70 11358:- 1135D:70 11364:- 11366:70 1136D:- 11370:70 11375:-
11380:160 1138A:- 1138B:160 1138C:- 1138E:160 1138F:- 11390:160 113B6:- 113B7:160 113C1:- 113C2:160 113C3:-
113C5:160 113C6:- 113C7:160 113CB:- 113CC:160 113D6:- 113D7:160 113D9:- 113E1:160 113E3:- 11400:90 1145A:130
1145B:90 1145C:- 1145D:90 1145E:110 1145F:120 11460:130 11462:- 11480:70 114C8:- 114D0:70 114DA:- 11580:70
115B6:- 115B8:70 115CA:80 115DE:- 11600:70 11645:- 11650:70 1165A:- 11660:90 1166D:- 11680:61 116B8:120
116B9:140 116BA:- 116C0:61 116CA:- 116D0:160 116E4:- 11700:80 1171A:110 1171B:- 1171D:80 1172C:- 11730:80
11740:140 11747:- 11800:110 1183C:- 118A0:70 118F3:- 118FF:70 11900:130 11907:- 11909:130 1190A:- 1190C:130
11914:- 11915:130 11917:- 11918:130 11936:- 11937:130 11939:- 1193B:130 11947:- 11950:130 1195A:- 119A0:120
119A8:- 119AA:120 119D8:- 119DA:120 119E5:- 11A00:100 11A48:- 11A50:100 11A84:120 11A86:100 11A9D:110 11A9E:100
11AA3:- 11AB0:140 11AC0:70 11AF9:- 11B00:150 11B0A:- 11BC0:160 11BE2:- 11BF0:160 11BFA:- 11C00:90 11C09:-
11C0A:90 11C37:- 11C38:90 11C46:- 11C50:90 11C6D:- 11C70:90 11C90:- 11C92:90 11CA8:- 11CA9:90 11CB7:- 11D00:100
11D07:- 11D08:100 11D0A:- 11D0B:100 11D37:- 11D3A:100 11D3B:- 11D3C:100 11D3E:- 11D3F:100 11D48:- 11D50:100
11D5A:- 11D60:110 11D66:- 11D67:110 11D69:- 11D6A:110 11D8F:- 11D90:110 11D92:- 11D93:110 11D99:- 11DA0:110
11DAA:- 11EE0:110 11EF9:- 11F00:150 11F11:- 11F12:150 11F3B:- 11F3E:150 11F5A:160 11F5B:- 11FB0:130 11FB1:-
11FC0:120 11FF2:- 11FFF:120 12000:50 1236F:70 12399:80 1239A:- 12400:50 12463:70 1246F:- 12470:50 12474:70
12475:- 12480:80 12544:- 12F90:140 12FF3:- 13000:52 1342F:150 13430:120 13439:150 13456:- 13460:160 143FB:-
14400:80 14647:- 16100:160 1613A:- 16800:60 16A39:- 16A40:70 16A5F:- 16A60:70 16A6A:- 16A6E:70 16A70:140 16ABF:-
16AC0:140 16ACA:- 16AD0:70 16AEE:- 16AF0:70 16AF6:- 16B00:70 16B46:- 16B50:70 16B5A:- 16B5B:70 16B62:- 16B63:70
16B78:- 16B7D:70 16B90:- 16D40:160 16D7A:- 16E40:110 16E9B:- 16F00:61 16F45:120 16F4B:- 16F4F:120 16F50:61
16F7F:120 16F88:- 16F8F:61 16FA0:- 16FE0:90 16FE1:100 16FE2:120 16FE4:130 16FE5:- 16FF0:130 16FF2:- 17000:90
187ED:110 187F2:120 187F8:- 18800:90 18AF3:130 18CD6:- 18CFF:160 18D00:130 18D09:- 1AFF0:140 1AFF4:- 1AFF5:140
1AFFC:- 1AFFD:140 1AFFF:- 1B000:60 1B002:100 1B11F:140 1B123:- 1B132:150 1B133:- 1B150:120 1B153:- 1B155:150
1B156:- 1B164:120 1B168:- 1B170:100 1B2FC:- 1BC00:70 1BC6B:- 1BC70:70 1BC7D:- 1BC80:70 1BC89:- 1BC90:70 1BC9A:-
1BC9C:70 1BCA4:- 1CC00:160 1CCFA:- 1CD00:160 1CEB4:- 1CF00:140 1CF2E:- 1CF30:140 1CF47:- 1CF50:140 1CFC4:-
1D000:31 1D0F6:- 1D100:31 1D127:- 1D129:51 1D12A:31 1D1DE:80 1D1E9:140 1D1EB:- 1D200:41 1D246:- 1D2C0:150
1D2D4:- 1D2E0:110 1D2F4:- 1D300:40 1D357:- 1D360:50 1D372:110 1D379:- 1D400:31 1D455:- 1D456:31 1D49D:- 1D49E:31
1D4A0:- 1D4A2:31 1D4A3:- 1D4A5:31 1D4A7:- 1D4A9:31 1D4AD:- 1D4AE:31 1D4BA:- 1D4BB:31 1D4BC:- 1D4BD:31 1D4C1:40
1D4C2:31 1D4C4:- 1D4C5:31 1D506:- 1D507:31 1D50B:- 1D50D:31 1D515:- 1D516:31 1D51D:- 1D51E:31 1D53A:- 1D53B:31
1D53F:- 1D540:31 1D545:- 1D546:31 1D547:- 1D54A:31 1D551:- 1D552:31 1D6A4:41 1D6A6:- 1D6A8:31 1D7CA:50 1D7CC:-
1D7CE:31 1D800:80 1DA8C:- 1DA9B:80 1DAA0:- 1DAA1:80 1DAB0:- 1DF00:140 1DF1F:- 1DF25:150 1DF2B:- 1E000:90 1E007:-
1E008:90 1E019:- 1E01B:90 1E022:- 1E023:90 1E025:- 1E026:90 1E02B:- 1E030:150 1E06E:- 1E08F:150 1E090:-
1E100:120 1E12D:- 1E130:120 1E13E:- 1E140:120 1E14A:- 1E14E:120 1E150:- 1E290:140 1E2AF:- 1E2C0:120 1E2FA:-
1E2FF:120 1E300:- 1E4D0:150 1E4FA:- 1E5D0:160 1E5FB:- 1E5FF:160 1E600:- 1E7E0:140 1E7E7:- 1E7E8:140 1E7EC:-
1E7ED:140 1E7EF:- 1E7F0:140 1E7FF:- 1E800:70 1E8C5:- 1E8C7:70 1E8D7:- 1E900:90 1E94B:120 1E94C:- 1E950:90
1E95A:- 1E95E:90 1E960:- 1EC71:110 1ECB5:- 1ED01:120 1ED3E:- 1EE00:61 1EE04:- 1EE05:61 1EE20:- 1EE21:61 1EE23:-
1EE24:61 1EE25:- 1EE27:61 1EE28:- 1EE29:61 1EE33:- 1EE34:61 1EE38:- 1EE39:61 1EE3A:- 1EE3B:61 1EE3C:- 1EE42:61
1EE43:- 1EE47:61 1EE48:- 1EE49:61 1EE4A:- 1EE4B:61 1EE4C:- 1EE4D:61 1EE50:- 1EE51:61 1EE53:- 1EE54:61 1EE55:-
1EE57:61 1EE58:- 1EE59:61 1EE5A:- 1EE5B:61 1EE5C:- 1EE5D:61 1EE5E:- 1EE5F:61 1EE60:- 1EE61:61 1EE63:- 1EE64:61
1EE65:- 1EE67:61 1EE6B:- 1EE6C:61 1EE73:- 1EE74:61 1EE78:- 1EE79:61 1EE7D:- 1EE7E:61 1EE7F:- 1EE80:61 1EE8A:-
1EE8B:61 1EE9C:- 1EEA1:61 1EEA4:- 1EEA5:61 1EEAA:- 1EEAB:61 1EEBC:- 1EEF0:61 1EEF2:- 1F000:51 1F02C:- 1F030:51
1F094:- 1F0A0:60 1F0AF:- 1F0B1:60 1F0BF:70 1F0C0:- 1F0C1:60 1F0D0:- 1F0D1:60 1F0E0:70 1F0F6:- 1F100:52 1F10B:70
1F10D:130 1F110:52 1F12F:110 1F130:60 1F131:52 1F132:60 1F13D:52 1F13E:60 1F13F:52 1F140:60 1F142:52 1F143:60
1F146:52 1F147:60 1F14A:52 1F14F:60 1F157:52 1F158:60 1F15F:52 1F160:60 1F16A:61 1F16C:120 1F16D:130 1F170:60
1F179:52 1F17A:60 1F17B:52 1F17D:60 1F17F:52 1F180:60 1F18A:52 1F18E:60 1F190:52 1F191:60 1F19B:90 1F1AD:130
1F1AE:- 1F1E6:60 1F200:52 1F201:60 1F203:- 1F210:52 1F232:60 1F23B:90 1F23C:- 1F240:52 1F249:- 1F250:60 1F252:-
1F260:100 1F266:- 1F300:60 1F321:70 1F32D:80 1F330:60 1F336:70 1F337:60 1F37D:70 1F37E:80 1F380:60 1F394:70
1F3A0:60 1F3C5:70 1F3C6:60 1F3CB:70 1F3CF:80 1F3D4:70 1F3E0:60 1F3F1:70 1F3F8:80 1F400:60 1F43F:70 1F440:60
1F441:70 1F442:60 1F4F8:70 1F4F9:60 1F4FD:70 1F4FF:80 1F500:60 1F53E:70 1F540:61 1F544:70 1F54B:80 1F550:60
1F568:70 1F57A:90 1F57B:70 1F5A4:90 1F5A5:70 1F5FB:60 1F600:61 1F601:60 1F611:61 1F612:60 1F615:61 1F616:60
1F617:61 1F618:60 1F619:61 1F61A:60 1F61B:61 1F61C:60 1F61F:61 1F620:60 1F626:61 1F628:60 1F62C:61 1F62D:60
1F62E:61 1F630:60 1F634:61 1F635:60 1F641:70 1F643:80 1F645:60 1F650:70 1F680:60 1F6C6:70 1F6D0:80 1F6D1:90
1F6D3:100 1F6D5:120 1F6D6:130 1F6D8:- 1F6DC:150 1F6DD:140 1F6E0:70 1F6ED:- 1F6F0:70 1F6F4:90 1F6F7:100 1F6F9:110
1F6FA:120 1F6FB:130 1F6FD:- 1F700:60 1F774:150 1F777:- 1F77B:150 1F780:70 1F7D5:110 1F7D9:150 1F7DA:- 1F7E0:120
1F7EC:- 1F7F0:140 1F7F1:- 1F800:70 1F80C:- 1F810:70 1F848:- 1F850:70 1F85A:- 1F860:70 1F888:- 1F890:70 1F8AE:-
1F8B0:130 1F8B2:160 1F8BC:- 1F8C0:160 1F8C2:- 1F900:100 1F90C:130 1F90D:120 1F910:80 1F919:90 1F91F:100 1F920:90
1F928:100 1F930:90 1F931:100 1F933:90 1F93F:120 1F940:90 1F94C:100 1F94D:110 1F950:90 1F95F:100 1F96C:110
1F971:120 1F972:130 1F973:110 1F977:130 1F979:140 1F97A:110 1F97B:120 1F97C:110 1F980:80 1F985:90 1F992:100
1F998:110 1F9A3:130 1F9A5:120 1F9AB:130 1F9AE:120 1F9B0:110 1F9BA:120 1F9C0:80 1F9C1:110 1F9C3:120 1F9CB:130
1F9CC:140 1F9CD:120 1F9D0:100 1F9E7:110 1FA00:120 1FA54:- 1FA60:110 1FA6E:- 1FA70:120 1FA74:130 1FA75:150
1FA78:120 1FA7B:140 1FA7D:- 1FA80:120 1FA83:130 1FA87:150 1FA89:160 1FA8A:- 1FA8F:160 1FA90:120 1FA96:130
1FAA9:140 1FAAD:150 1FAB0:130 1FAB7:140 1FABB:150 1FABE:160 1FABF:150 1FAC0:130 1FAC3:140 1FAC6:160 1FAC7:-
1FACE:150 1FAD0:130 1FAD7:140 1FADA:150 1FADC:160 1FADD:- 1FADF:160 1FAE0:140 1FAE8:150 1FAE9:160 1FAEA:-
1FAF0:140 1FAF7:150 1FAF9:- 1FB00:130 1FB93:- 1FB94:130 1FBCB:160 1FBF0:130 1FBFA:- 1FFFE:20 20000:31 2A6D7:130
2A6DE:140 2A6E0:- 2A700:52 2B735:140 2B739:150 2B73A:- 2B740:60 2B81E:- 2B820:80 2CEA2:- 2CEB0:100 2EBE1:-
2EBF0:151 2EE5E:- 2F800:31 2FA1E:- 2FFFE:20 30000:130 3134B:- 31350:150 323B0:- 3FFFE:20 40000:- 4FFFE:20
50000:- 5FFFE:20 60000:- 6FFFE:20 70000:- 7FFFE:20 80000:- 8FFFE:20 90000:- 9FFFE:20 A0000:- AFFFE:20 B0000:-
BFFFE:20 C0000:- CFFFE:20 D0000:- DFFFE:20 E0000:- E0001:31 E0002:- E0020:31 E0080:- E0100:40 E01F0:- EFFFE:20"

def versions : List Nat :=
  [11, 20, 21, 30, 31, 32, 40, 41, 50, 51, 52, 60, 61, 62, 63, 70,
    80, 90, 100, 110, 120, 121, 130, 140, 150, 151, 160]

def runs : List ((Nat × Nat) × Option Nat) :=
  Runs.labelled (fun label => some label.toNat?) runText

/-- The characters that a version has. -/
def set (version : Nat) : CharSet :=
  .ofLabels (fun age => age.any (· ≤ version)) runs

def names (version : Nat) : List String :=
  [toString (version / 10) ++ "." ++ toString (version % 10), "v" ++ toString version]

def named? (name : String) : Option Nat :=
  versions.find? fun version => (names version).contains name

end Age
end Text
end RecordStore
